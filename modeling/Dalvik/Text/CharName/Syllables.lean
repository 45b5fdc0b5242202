/-!
Names of letters and syllables of scripts of East Asia, and of forms of letters. The entries are in
the form that `addNames` reads.
-/

namespace Dalvik.Text

def syllableNames : List String := [
  "2c00:0GLAGOLITIC c l AZU;3BUKY;3VEDE;3GLAGOLI;3DOBRO;3YESTU;3ZHIVETE;3DZELO;3ZEMLJA;3IZHE",
  "3h IZHE;3I;3DJERVI;3KAKO;3LJUDIJE;3MYSLITE;3NASHI;3ONU;3POKOJI;3RITSI;3SLOVO;3TVRIDO;3UKU",
  "3FRITU;3HERU;3OTU;3PE;3SHTA;3TSI;3CHRIVI;3SHA;3YERU;3YERI;3YATI;3SPIDERY HA;3YU;3m YUS;5w TAIL",
  "3YO;3IOTATED m YUS;3BIG YUS;3IOTATED*1 1 3;3FITA;3IZHITSA;3SHTAPIC;3TROKUTASTI A",
  "3LATINATE MYSLITE;3CAUDATE CHRIVI;1m*30 30 2;0lb c l L w d BAR;&;1c l L w mi tl;3P w st",
  "3R w TAIL;1m l A w st;3T w da st;1c l H w dc;&;1c l K w dc;&;1c l Z w dc;&;1c l ALPHA;3M w ho",
  "3tu A;4ALPHA;1m l V w r ho;1c l W w ho;&;3V w CURL;1c l hl H;&;3TAILLESS PHI;3E w NOTCH",
  "3tu*1 15 3;3O w LOW rn INSIDE;1l m c tu E;1SUBSCRIPT m l J;0mf l c V;0lb c l S w SWASH TAIL",
  "3Z*1 1 4;0COPTIC c l ALFA;&;1c l VIDA;&;1c l GAMMA;&;1c l DALDA;&;1c l EIE;&;1c l SOU;&",
  "1c l ZATA;&;1c l HATE;&;1c l THETHE;&;1c l IAUDA;&;1c l KAPA;&;1c l LAULA;&;1c l MI;&;1c l NI;&",
  "1c l KSI;&;1c l O;&;1c l PI;&;1c l RO;&;1c l SIMA;&;1c l TAU;&;1c l UA;&;1c l FI;&;1c l KHI;&",
  "1c l PSI;&;1c l OOU;&;1c l DIALECT-P al;&;1c l OLD COPTIC AIN;&;1c l CRYPTOGRAMMIC EIE;&",
  "1c l DIALECT-P KAPA;&;1c l DIALECT-P NI;&;1c l CRYPTOGRAMMIC NI;&;1c l OLD COPTIC OOU;&",
  "1c l SAMPI;&;1c l CROSSED SHEI;&;1c l OLD COPTIC SHEI;&;1c l OLD COPTIC ESH;&",
  "1c l AKHMIMIC KHEI;&;1c l DIALECT-P HORI;&;1c l OLD COPTIC HORI;&;1c l OLD COPTIC HA;&",
  "1c l L-SHAPED HA;&;1c l OLD COPTIC HEI;&;1c l OLD COPTIC HAT;&;1c l OLD COPTIC GANGIA;&",
  "1c l OLD COPTIC DJA;&;1c l OLD COPTIC SHIMA;&;1c l OLD NUBIAN SHIMA;&;1c l OLD NUBIAN NGI;&",
  "1c l OLD NUBIAN NYI;&;1c l OLD NUBIAN WAU;&;1y KAI;2MI RO;2PI RO;2STAUROS;2TAU RO;2KHI RO",
  "2SHIMA SIMA;1c l CRYPTOGRAMMIC SHEI;&;1c l CRYPTOGRAMMIC GANGIA;&;1co NI b;2SPIRITUS ASPER",
  "3LENIS;1c l BOHAIRIC KHEI;&;2cf9:1OLD NUBIAN FULL so;3DIRECT qe x;3INDIRECT qe x;3VERSE DIVIDER",
  "1FRACTION ONE hl;1FULL so;1MORPHOLOGICAL*1 3 4;0GEORGIAN m l AN;3BAN;3GAN;3DON;3EN;3VIN;3ZEN",
  "3TAN;3IN;3KAN;3LAS;3MAN;3NAR;3ON;3PAR;3ZHAR;3RAE;3SAN;3TAR;3UN;3PHAR;3KHAR;3GHAN;3QAR;3SHIN",
  "3CHIN;3CAN;3JIL;3CIL;3CHAR;3XAN;3JHAN;3HAE;3HE;3HIE;3WE;3HAR;3HOE;2d27:3YN;2d2d:3AEN",
  "2d30:0TIFINAGH l YA;2YAB;2YABH;2YAG;2YAGHH;2BERBER ACADEMY YAJ;2YAJ;2YAD;2YADH;2YADD;2YADDH",
  "2YEY;2YAF;2YAK;2TUAREG YAK;2YAKHH;2YAH;2BERBER ACADEMY YAH;2TUAREG YAH;2YAHH;2YAA;2YAKH",
  "2TUAREG YAKH;2YAQ;2TUAREG YAQ;2YI;2YAZH;2AHAGGAR YAZH;2TUAREG YAZH;2YAL;2YAM;2YAN;2TUAREG YAGN",
  "3YANG;2YAP;2YU;2YAR;2YARR;2YAGH;2TUAREG YAGH;2AYER YAGH;2YAS;2YASS;2YASH;2YAT;2YATH;2YACH;2YATT",
  "2YAV;2YAW;2YAY;2YAZ;2TAWELLEMET YAZ;2YAZZ;2YE;2YO;2d6f:1mf l LABIALIZATION x;1sp x",
  "2d7f:1cn JOINER;0ETHIOPIC SYLLABLE LOA;2MOA;2ROA;2SOA;2SHOA;2BOA;2TOA;2COA;2NOA;2NYOA",
  "2GLOTTAL OA;2ZOA;2DOA;2DDOA;2JOA;2THOA;2CHOA;2PHOA;2POA;2GGWA;2GGWI;2GGWEE;2GGWE;2da0:2SSA;2SSU",
  "2SSI;2SSAA;2SSEE;2SSE;2SSO;2da8:2CCA;2CCU;2CCI;2CCAA;2CCEE;2CCE;2CCO;2db0:2ZZA;2ZZU;2ZZI;2ZZAA",
  "2ZZEE;2ZZE;2ZZO;2db8:2CCHA;2CCHU;2CCHI;2CCHAA;2CCHEE;2CCHE;2CCHO;2dc0:2QYA;2QYU;2QYI;2QYAA",
  "2QYEE;2QYE;2QYO;2dc8:2KYA;2KYU;2KYI;2KYAA;2KYEE;2KYE;2KYO;2dd0:2XYA;2XYU;2XYI;2XYAA;2XYEE;2XYE",
  "2XYO;2dd8:2GYA;2GYU;2GYI;2GYAA;2GYEE;2GYE;2GYO;2de0:0co CYRILLIC l BE;3VE;3GHE;3DE;3ZHE;3ZE;3KA",
  "3EL;3EM;3EN;3O;3PE;3ER;3ES;3TE;3HA;3TSE;3CHE;3SHA;3SHCHA;3FITA;3ES-TE;3A;3IE;3DJERV",
  "3MONOGRAPH UK;3YAT;3YU;3IOTIFIED A;3lt YUS;3BIG YUS;3IOTIFIED*1 1 3;0r ag SUBSTITUTION MARKER",
  "2dd*1 1 2;0e SUBSTITUTION br;0r*1 1 1;0e dd*1 2 1;0r*1 1 1;0RAISED INTERPOLATION MARKER",
  "1dd*1 1 1;0dd TRANSPOSITION MARKER;0e TRANSPOSITION br;0r*1 1 1;0RAISED sq",
  "0e RAISED OMISSION br;0r*1 1 1;0EDITORIAL CORONIS;0PARAGRAPHOS;0FORKED*1 1 0;0re*1 1 0",
  "0HYPODIASTOLE;0dd OBELOS;0do ANCORA;0up ANCORA;0dd ri ag;0d OBLIQUE HYPHEN;0in INTERROBANG",
  "0PALM BRANCH;0HYPHEN w di;0tl w rn b;0e LOW PARAPHRASE br;0r*1 1 1;0tl w DOT b;3p",
  "0e v BAR w QUILL;0r*1 1 1;0TOP e hl br;1r hl br;0bo*2 2 1;0e SIDEWAYS U br;0r*1 1 1;0e d pa",
  "0r d pa;0TWO dt ov ONE DOT pu;0ONE DOT ov TWO dt pu;0su fo DOT pu;0fi DOT x;0re qe x;0v tl",
  "0rn POINT;0WORD sp mi DOT;0tu cm;0RAISED DOT;1cm;0tu SEMICOLON;0DAGGER w e GUARD;2r GUARD",
  "0tu DAGGER;0TOP hl SECTION s;0TWO-EM DASH;0THREE-EM DASH;0STENOGRAPHIC FULL so;0v SIX dt",
  "0WIGGLY v lc;0CAPITULUM;0d HYPHEN;0re cm;0d LOW-REVERSED-9 qu x;0DASH w e UPTURN",
  "0d SUSPENSION x;0in LOW KAVYKA;3w KAVYKA b;0*1 2 1;2w DOT;0d STACKED cm;0dd SOLIDUS;0tp DAGGER",
  "0MEDIEVAL cm;0PARAGRAPHUS x;0PUNCTUS ELEVATUS x;0CORNISH*1 125 3;0cb PATTY w r CROSSBAR",
  "3e*1 1 4;0TIRONIAN s c ET;0MEDIEVAL ex x;1qe x;0e sq br w st;0r*1 1 1;0e sq br w d st;0r*1 1 1",
  "0TOP hl e pa;2r pa;0bo*2 2 1;0*1 46 1;2e80:0CJK RADICAL REPEAT;2CLIFF;2SECOND ONE;3TWO;3j",
  "2PERSON;2BOX;2TABLE;2KNIFE*2 6 3;2DIVINATION;2SEAL;2m*2 a 3;2LAME*3 c 3;3fo;2SNAKE;2THREAD",
  "2SNOUT*2 12 3;2HEART*2 14 3;2HAND;2RAP;2e9b:2CHOKE;2SUN;2MOON;2DEATH;2MOTHER;2CIVILIAN",
  "2WATER*2 1e 3;2FIRE;2PAW*2 21 3;2SIMPLIFIED hl TREE TRUNK;2COW;2DOG;2JADE;2BOLT OF CLOTH;2EYE",
  "2SPIRIT*2 29 3;2BAMBOO;2SILK;2cp SILK;2NET*4 22 3;2MESH;2SHEEP;2RAM;2EWE;2OLD;2BRUSH*2 37 3",
  "2MEAT;2MORTAR;2GRASS*3 3b 3;2TIGER;2CLOTHES;2WEST*2 40 3;2cp SEE;2SIMPLIFIED HORN;2HORN",
  "2cp SPEECH;3SHELL;2FOOT;2cp CART;2SIMPLIFIED WALK;2WALK*2 4a 3;2CITY;2cp GOLD;2ln*2 4e 3;2cp ln",
  "3GATE;2MOUND*2 52 3;2RAIN;2BLUE;2cp TANNED LEATHER;3LEAF;3WIND;3FLY;2EAT*3 5a 3;2cp EAT;2HEAD",
  "2cp HORSE;2BONE;2GHOST;2cp FISH;3BIRD;3SALT;2SIMPLIFIED WHEAT;3YELLOW;2cp FROG",
  "2J-SIMPLIFIED EVEN;2cp EVEN;2J-SIMPLIFIED TOOTH;2cp TOOTH;2J-SIMPLIFIED DRAGON;2cp DRAGON",
  "2TURTLE;2J-SIMPLIFIED TURTLE;2cp TURTLE;2f00:0KANGXI RADICAL ONE;2lc;2DOT;2SLASH;2SECOND;2ho",
  "2TWO;2LID;2MAN;2LEGS;2ENTER;2ei;2dw BOX;2COVER;2ICE;2TABLE;2oe BOX;2KNIFE;2POWER;2WRAP;2SPOON",
  "2r oe BOX;2HIDING ENCLOSURE;2TEN;1*2 81 1;2CLIFF;2PRIVATE;2AGAIN;2MOUTH;2*1 8 3;2EARTH;2SCHOLAR",
  "2GO;3SLOWLY;2EVENING;2BIG;2WOMAN;2CHILD;2ROOF;2INCH;2m;2LAME;2CORPSE;2SPROUT;2MOUNTAIN;2RIVER",
  "2WORK;2ONESELF;2TURBAN;2DRY;2sh THREAD;2dd CLIFF;2ln STRIDE;2TWO HANDS;2SHOOT;2BOW;2SNOUT",
  "2BRISTLE;2STEP;2HEART;2HALBERD;2DOOR;2HAND;2BRANCH;2RAP;2SCRIPT;2DIPPER;2AXE;2sq;2NOT;2SUN;2SAY",
  "2MOON;2TREE;2LACK;2so;2DEATH;2WEAPON;2DO NOT;2COMPARE;2FUR;2CLAN;2STEAM;2WATER;2FIRE;2CLAW",
  "2FATHER;2d X;2*1 a7 3;2SLICE;2FANG;2COW;2DOG;2PROFOUND;2JADE;2MELON;2TILE;2SWEET;2LIFE;2USE",
  "2FIELD;1*1 b0 1;2SICKNESS;2dd TENT;2u;2SKIN;2DISH;2EYE;2SPEAR;2a;2STONE;2SPIRIT;2TRACK;2GRAIN",
  "2CAVE;2STAND;2BAMBOO;2RICE;2SILK;2JAR;2NET;2SHEEP;2FEATHER;2OLD;2k;2PLOW;2EAR;2BRUSH;2MEAT",
  "2MINISTER;2SELF;2ARRIVE;2MORTAR;2TONGUE;2OPPOSE;2BOAT;2STOPPING;2COLOR;2GRASS;2TIGER;2INSECT",
  "2BLOOD;2WALK*1 79 3;2CLOTHES;2WEST;2SEE;2HORN;2SPEECH;2VALLEY;2BEAN;2PIG;2BADGER;2SHELL;2RED",
  "2RUN;2FOOT;2BODY;2CART;2BITTER;2MORNING;2WALK;2CITY;2WINE;2DISTINGUISH;2VILLAGE;2GOLD;2ln;2GATE",
  "2MOUND;2SLAVE;2sh TAILED BIRD;1*2 c9 1;2WRONG;2fa;2LEATHER;2*1 cc 3;2LEEK;2SOUND;2*3 ce 3;2EAT",
  "2HEAD;2FRAGRANT;2HORSE;2BONE;2TALL;2HAIR;2FIGHT;2SACRIFICIAL WINE;2CAULDRON;2GHOST;2*3 d1 3",
  "2DEER;2WHEAT;2HEMP;2YELLOW;2MILLET;2q;2EMBROIDERY;2FROG;2TRIPOD;2DRUM;2RAT;2NOSE;2EVEN;2TOOTH",
  "2DRAGON;2TURTLE;2FLUTE;2ff0:0ie DESCRIPTION CHARACTER e TO r;3b TO p;3e TO mi k r;3b TO mi k p",
  "3FULL SURROUND;3SURROUND FROM b;5p;5e;5ue e;6r;5lo e;3OVERLAID;3000:1SPACE;1cm;1FULL so",
  "0DITTO x;0JAPANESE INDUSTRIAL STANDARD y;0ie ITERATION x;1CLOSING x;1nu ze;0e ag br;0r ag br",
  "0e d ag br;0r*1 1 1;0e cd br;0r cd br;0e u cd br;0r*1 1 1;0e q LENTICULAR br;0r*1 1 1;0POSTAL x",
  "0GETA x;0e TORTOISE SHELL br;0r*1 1 1;0e u*1 6 2;0r*1 1 1;0e u*1 4 1;0r*1 1 1;0e u sq br",
  "0r*1 1 1;0WAVE DASH;0re d PRIME qu x;0*1 1 1;0LOW*1 2 1;0POSTAL x fa;0HANGZHOU NUMERAL*4 168 3",
  "2fi;2SIX;2se;2ei;2ni;0ie LEVEL to x;1RISING to x;1DEPARTING to x;1ENTERING to x",
  "0HANGUL si DOT to x;1d*1 1 2;0WAVY DASH;0v KANA REPEAT x;3w VOICED SOUND x;3x ue hl",
  "3w VOICED SOUND*1 1 3;3x lo hl;0cc*1 24 0;0ie TELEGRAPH lc FEED sp y;0HANGZHOU NUMERAL TEN;2tw",
  "2THIRTY;0v*1 36 0;0MASU x;0PART ALTERNATION x;0ie VARIATION INDICATOR;1hl FILL SPACE",
  "3041:0HIRAGANA l m A;2A;2m I;2I;2m U;2U;2m E;2E;2m O;2O;2KA;2GA;2KI;2GI;2KU;2GU;2KE;2GE;2KO;2GO",
  "2SA;2ZA;2SI;2ZI;2SU;2ZU;2SE;2ZE;2SO;2ZO;2TA;2DA;2TI;2DI;2m TU;2TU;2DU;2TE;2DE;2TO;2DO;2NA;2NI",
  "2NU;2NE;2NO;2HA;2BA;2PA;2HI;2BI;2PI;2HU;2BU;2PU;2HE;2BE;2PE;2HO;2BO;2PO;2MA;2MI;2MU;2ME;2MO",
  "2m YA;2YA;2m YU;2YU;2m YO;2YO;2RA;2RI;2RU;2RE;2RO;2m WA;2WA;2WI;2WE;2WO;2N;2VU;2m KA;3KE",
  "3099:0co KATAKANA-HIRAGANA*1 64 4;2SEMI-VOICED*1 1 3;0*2 2 1;0HIRAGANA*1 95 1;1VOICED*1 96 1",
  "1dr YORI;0KATAKANA-HIRAGANA d HYPHEN;0KATAKANA*56 5e 1;2VA;2VI;2VE;2VO;1mi DOT",
  "0KATAKANA-HIRAGANA PROLONGED SOUND x;0KATAKANA*2 60 1;1dr KOTO;3105:0BOPOMOFO l B;2P;2M;2F;2D",
  "2T;2N;2L;2G;2K;2H;2J;2Q;2X;2ZH;2CH;2SH;2R;2Z;2C;2S;2A;2O;2E;2EH;2AI;2EI;2AU;2OU;2AN;2EN;2ANG",
  "2ENG;2ER;2I;2U;2IU;2V;2NG;2GN;2IH;2O w DOT b;2NN;3131:0HANGUL l KIYEOK;2SSANGKIYEOK",
  "2KIYEOK-SIOS;2NIEUN;2NIEUN-CIEUC;2NIEUN-HIEUH;2TIKEUT;2SSANGTIKEUT;2RIEUL;2RIEUL-KIYEOK",
  "2RIEUL-MIEUM;2RIEUL-PIEUP;2RIEUL-SIOS;2RIEUL-THIEUTH;2RIEUL-PHIEUPH;2RIEUL-HIEUH;2MIEUM;2PIEUP",
  "2SSANGPIEUP;2PIEUP-SIOS;2SIOS;2SSANGSIOS;2IEUNG;2CIEUC;2SSANGCIEUC;2CHIEUCH;2KHIEUKH;2THIEUTH",
  "2PHIEUPH;2HIEUH;2A;2AE;2YA;2YAE;2EO;2E;2YEO;2YE;2O;2WA;2WAE;2OE;2YO;2U;2WEO;2WE;2WI;2YU;2EU;2YI",
  "2I;1FILLER;1l SSANGNIEUN;2NIEUN-TIKEUT;2NIEUN-SIOS;2NIEUN-PANSIOS;2RIEUL-KIYEOK-SIOS",
  "2RIEUL-TIKEUT;2RIEUL-PIEUP-SIOS;2RIEUL-PANSIOS;2RIEUL-YEORINHIEUH;2MIEUM-PIEUP;2MIEUM-SIOS",
  "2MIEUM-PANSIOS;2KAPYEOUNMIEUM;2PIEUP-KIYEOK;2PIEUP-TIKEUT;2PIEUP-SIOS-KIYEOK;2PIEUP-SIOS-TIKEUT",
  "2PIEUP-CIEUC;2PIEUP-THIEUTH;2KAPYEOUNPIEUP;2KAPYEOUNSSANGPIEUP;2SIOS-KIYEOK;2SIOS-NIEUN",
  "2SIOS-TIKEUT;2SIOS-PIEUP;2SIOS-CIEUC;2PANSIOS;2SSANGIEUNG;2YESIEUNG;2YESIEUNG-SIOS",
  "2YESIEUNG-PANSIOS;2KAPYEOUNPHIEUPH;2SSANGHIEUH;2YEORINHIEUH;2YO-YA;2YO-YAE;2YO-I;2YU-YEO;2YU-YE",
  "2YU-I;2ARAEA;2ARAEAE;3190:0ie ANNOTATION LINKING x;2REVERSE x;2ONE x;2TWO x;2j x;2fo x;2TOP x",
  "2mi x;2bo x;2FIRST x;2SECOND x;2THIRD x;2FOURTH x;2HEAVEN x;2EARTH x;2MAN x;0BOPOMOFO l BU;2ZI",
  "2JI;2GU;2EE;2ENN;2OO;2ONN;2IR;2ANN;2INN;2UNN;2IM;2NGG;2AINN;2AUNN;2AM;2OM;2ONG;2INNN;1n l P;3T",
  "3K;3H;1l GH;2LH;2ZY;1n l G;1l GW;2KW;2OE;2AH;0CJK st T;2WG;2XG;2BXG;2SW;2HZZ;2HZG;2HP;2HZWG",
  "2SZWG;2HZT;2HZZP;2HPWG;2HZW;2HZZZ;2N;2H;2S;2P;2SP;2D;2HZ;2HG;2SZ;2SWZ;2ST;2SG;2PD;2PZ;2TN;2SZZ",
  "2SWG;2HXWG;2HZZZG;2PG;2Q;31f0:0KATAKANA l m KU;3SI;3SU;3TO;3NU;3HA;3HI;3HU;3HE;3HO;3MU",
  "3*5 15d 2;0PARENTHESIZED HANGUL KIYEOK;2NIEUN;2TIKEUT;2RIEUL;2*2 b6 2;2SIOS;2*2 b3 2;2*5 b2 2",
  "2KIYEOK A;2NIEUN A;2TIKEUT A;2RIEUL A;2MIEUM A;2PIEUP A;2SIOS A;2IEUNG A;2CIEUC A;2CHIEUCH A",
  "2KHIEUKH A;2THIEUTH A;2PHIEUPH A;2HIEUH A;2CIEUC U;1KOREAN CHARACTER OJEON;3O HU",
  "3220:1IDEOGRAPH*9 1e8 2;2TEN;2MOON;2FIRE;2WATER;2WOOD;2METAL;2EARTH;2SUN;2STOCK;2HAVE;2SOCIETY",
  "2NAME;2SPECIAL;2FINANCIAL;2CONGRATULATION;2LABOR;2REPRESENT;2CALL;2STUDY;2SUPERVISE;2ENTERPRISE",
  "2RESOURCE;2ALLIANCE;2FESTIVAL;2REST;2SELF;2REACH;0cc IDEOGRAPH qe;2KINDERGARTEN;2SCHOOL;2KOTO",
  "1nu TEN ON q sq;2tw*1 1 3;2THIRTY*1 2 3;2FORTY*1 3 3;2FIFTY*1 4 3;2SIXTY*1 5 3;2sv*1 6 3",
  "2EIGHTY*1 7 3;0PARTNERSHIP s;0cc nu tw*9 219 2;2THIRTY;3*5 a 3;1*1c 5f 1",
  "1KOREAN CHARACTER CHAMKO;3JUEUI;1HANGUL IEUNG U;0KOREAN*1 264 2;0cc*19 60 1;2SECRET;2MALE",
  "2FEMALE;2SUITABLE;2EXCELLENT;2PRINT;2ATTENTION;2ITEM;2REST;2COPY;2CORRECT;2hg;2ce;2LOW;2e;2r",
  "2MEDICINE;2RELIGION;1*5 70 1;2NIGHT;1nu THIRTY*4 274 2;2FORTY;3*9 27e 2;2FIFTY",
  "0ie TELEGRAPH y FOR JANUARY;4FEBRUARY;4MARCH;4APRIL;4MAY;4JUNE;4JULY;4AUGUST;4SEPTEMBER",
  "4OCTOBER;4NOVEMBER;4DECEMBER;0sq HG;1ERG;1EV;0LIMITED LIABILITY s;0cc KATAKANA A;2I;2U;2E;2O",
  "2KA;2KI;2KU;2KE;2KO;2SA;2SI;2SU;2SE;2SO;2TA;2TI;2TU;2TE;2TO;2*5 264 2;2*5 f3 3;2*5 25a 2;2YA",
  "2YU;2*6 257 2;2*4 256 2;0sq ERA NAME REIWA;1APAATO;1ARUHUA;1ANPEA;1AARU;1ININGU;1INTI;1UON",
  "1ESUKUUDO;1EEKAA;1ONSU;1OOMU;1KAIRI;1KARATTO;1KARORII;1GARON;1GANMA;1GIGA;1GINII;1KYURII",
  "1GIRUDAA;1KIRO;1KIROGURAMU;1KIROMEETORU;1KIROWATTO;1GURAMU;1GURAMUTON;1KURUZEIRO;1KUROONE",
  "1KEESU;1KORUNA;1KOOPO;1SAIKURU;1SANTIIMU;1SIRINGU;1SENTI;1SENTO;1DAASU;1DESI;1DORU;1TON;1NANO",
  "1NOTTO;1HAITU;1PAASENTO;1PAATU;1BAARERU;1PIASUTORU;1PIKURU;1PIKO;1BIRU;1HUARADDO;1HUIITO",
  "1BUSSYERU;1HURAN;1HEKUTAARU;1PESO;1PENIHI;1HERUTU;1PENSU;1PEEZI;1BEETA;1POINTO;1BORUTO;1HON",
  "1PONDO;1HOORU;1HOON;1MAIKURO;1MAIRU;1MAHHA;1MARUKU;1MANSYON;1MIKURON;1MIRI;1MIRIBAARU;1MEGA",
  "1MEGATON;1MEETORU;1YAADO;1YAARU;1YUAN;1RITTORU;1RIRA;1RUPII;1RUUBURU;1REMU;1RENTOGEN;1WATTO",
  "0ie TELEGRAPH y FOR HOUR ze;5*a 139 2;5ELEVEN;5TWELVE;5THIRTEEN;5FOURTEEN;5FIFTEEN;5SIXTEEN",
  "5SEVENTEEN;5EIGHTEEN;5NINETEEN;5tw;5TWENTY-ONE;5TWENTY-TWO;5TWENTY-THREE;5TWENTY-FOUR;0sq HPA",
  "1DA;1AU;1BAR;1OV;1PC;1DM;2su;2CUBED;1IU;1ERA NAME HEISEI;3SYOUWA;3TAISYOU;3MEIZI;1CORPORATION",
  "1PA AMPS;1NA;1MU A;1MA;1KA;1KB;1MB;1GB;1CAL;1KCAL;1PF;1NF;1MU F;2G;1MG;1KG;1HZ;1KHZ;1MHZ;1GHZ",
  "1THZ;1MU L;1ML;1DL;1KL;1FM;1NM;1MU M;1MM;1CM;1KM;1MM su;1CM su;1M su;1KM su;1MM CUBED;1CM CUBED",
  "1M CUBED;1KM CUBED;1M ov S;4su;1PA;1KPA;1MPA;1GPA;1RAD;2*2 7 2;1PS;1NS;1MU S;1MS;1PV;1NV;1MU V",
  "1MV;1KV;1MV MEGA;1PW;1NW;1MU W;1MW;1KW;1MW MEGA;1K OHM;1M OHM;1AM;1BQ;1CC;1CD;1C ov KG;1CO;1DB",
  "1GY;1HA;1HP;1IN;1KK;1KM c;1KT;1LM;1LN;1LOG;1LX;1MB m;1MIL;1MOL;1PH;1PM;1PPM;1PR;1SR;1SV;1WB",
  "1V ov M;1A ov M;0ie TELEGRAPH y FOR DAY*18 87 5;5TWENTY-FIVE;5TWENTY-SIX;5TWENTY-SEVEN",
  "5TWENTY-EIGHT;5TWENTY-NINE;5THIRTY;5THIRTY-ONE;0sq GAL;4dc0:0HEXAGRAM FOR THE CREATIVE HEAVEN",
  "3RECEPTIVE EARTH;2DIFFICULTY AT THE BEGINNING;2YOUTHFUL FOLLY;2WAITING;2CONFLICT;2THE ARMY",
  "2HOLDING TOGETHER;2m TAMING;2TREADING;2PEACE;2STANDSTILL;2FELLOWSHIP;2GREAT POSSESSION;2MODESTY",
  "2ENTHUSIASM;2FOLLOWING;2WORK ON THE DECAYED;2APPROACH;2CONTEMPLATION;2BITING THROUGH;2GRACE",
  "2SPLITTING APART;2RETURN;2INNOCENCE;2GREAT TAMING;2MOUTH CORNERS;2GREAT PREPONDERANCE",
  "2THE ABYSMAL WATER;3CLINGING FIRE;2INFLUENCE;2DURATION;2RETREAT;2GREAT POWER;2PROGRESS",
  "2DARKENING OF THE li;2THE FAMILY;2OPPOSITION;2OBSTRUCTION;2DELIVERANCE;2DECREASE;2INCREASE",
  "2BREAKTHROUGH;2COMING TO MEET;2GATHERING*1 25 3;2PUSHING UPWARD;2OPPRESSION;2THE WELL",
  "2REVOLUTION;2THE CAULDRON;3AROUSING THUNDER;3KEEPING STILL MOUNTAIN;2DEVELOPMENT",
  "2THE MARRYING MAIDEN;2ABUNDANCE;2THE WANDERER;3GENTLE WIND;3JOYOUS LAKE;2DISPERSION;2LIMITATION",
  "2INNER TRUTH;2m*1 22 3;2AFTER COMPLETION;2BEFORE*1 1 3;a000:0YI SYLLABLE IT;2IX;2I;2IP;2IET",
  "2IEX;2IE;2IEP;2AT;2AX;2A;2AP;2UOX;2UO;2UOP;2OT;2OX;2O;2OP;2EX;2E;2WU;2BIT;2BIX;2BI;2BIP;2BIET",
  "2BIEX;2BIE;2BIEP;2BAT;2BAX;2BA;2BAP;2BUOX;2BUO;2BUOP;2BOT;2BOX;2BO;2BOP;2BEX;2BE;2BEP;2BUT;2BUX",
  "2BU;2BUP;2BURX;2BUR;2BYT;2BYX;2BY;2BYP;2BYRX;2BYR;2PIT;2PIX;2PI;2PIP;2PIEX;2PIE;2PIEP;2PAT;2PAX",
  "2PA;2PAP;2PUOX;2PUO;2PUOP;2POT;2POX;2PO;2POP;2PUT;2PUX;2PU;2PUP;2PURX;2PUR;2PYT;2PYX;2PY;2PYP",
  "2PYRX;2PYR;2BBIT;2BBIX;2BBI;2BBIP;2BBIET;2BBIEX;2BBIE;2BBIEP;2BBAT;2BBAX;2BBA;2BBAP;2BBUOX",
  "2BBUO;2BBUOP;2BBOT;2BBOX;2BBO;2BBOP;2BBEX;2BBE;2BBEP;2BBUT;2BBUX;2BBU;2BBUP;2BBURX;2BBUR;2BBYT",
  "2BBYX;2BBY;2BBYP;2NBIT;2NBIX;2NBI;2NBIP;2NBIEX;2NBIE;2NBIEP;2NBAT;2NBAX;2NBA;2NBAP;2NBOT;2NBOX",
  "2NBO;2NBOP;2NBUT;2NBUX;2NBU;2NBUP;2NBURX;2NBUR;2NBYT;2NBYX;2NBY;2NBYP;2NBYRX;2NBYR;2HMIT;2HMIX",
  "2HMI;2HMIP;2HMIEX;2HMIE;2HMIEP;2HMAT;2HMAX;2HMA;2HMAP;2HMUOX;2HMUO;2HMUOP;2HMOT;2HMOX;2HMO",
  "2HMOP;2HMUT;2HMUX;2HMU;2HMUP;2HMURX;2HMUR;2HMYX;2HMY;2HMYP;2HMYRX;2HMYR;2MIT;2MIX;2MI;2MIP",
  "2MIEX;2MIE;2MIEP;2MAT;2MAX;2MA;2MAP;2MUOT;2MUOX;2MUO;2MUOP;2MOT;2MOX;2MO;2MOP;2MEX;2ME;2MUT",
  "2MUX;2MU;2MUP;2MURX;2MUR;2MYT;2MYX;2MY;2MYP;2FIT;2FIX;2FI;2FIP;2FAT;2FAX;2FA;2FAP;2FOX;2FO;2FOP",
  "2FUT;2FUX;2FU;2FUP;2FURX;2FUR;2FYT;2FYX;2FY;2FYP;2VIT;2VIX;2VI;2VIP;2VIET;2VIEX;2VIE;2VIEP;2VAT",
  "2VAX;2VA;2VAP;2VOT;2VOX;2VO;2VOP;2VEX;2VEP;2VUT;2VUX;2VU;2VUP;2VURX;2VUR;2VYT;2VYX;2VY;2VYP",
  "2VYRX;2VYR;2DIT;2DIX;2DI;2DIP;2DIEX;2DIE;2DIEP;2DAT;2DAX;2DA;2DAP;2DUOX;2DUO;2DOT;2DOX;2DO;2DOP",
  "2DEX;2DE;2DEP;2DUT;2DUX;2DU;2DUP;2DURX;2DUR;2TIT;2TIX;2TI;2TIP;2TIEX;2TIE;2TIEP;2TAT;2TAX;2TA",
  "2TAP;2TUOT;2TUOX;2TUO;2TUOP;2TOT;2TOX;2TO;2TOP;2TEX;2TE;2TEP;2TUT;2TUX;2TU;2TUP;2TURX;2TUR",
  "2DDIT;2DDIX;2DDI;2DDIP;2DDIEX;2DDIE;2DDIEP;2DDAT;2DDAX;2DDA;2DDAP;2DDUOX;2DDUO;2DDUOP;2DDOT",
  "2DDOX;2DDO;2DDOP;2DDEX;2DDE;2DDEP;2DDUT;2DDUX;2DDU;2DDUP;2DDURX;2DDUR;2NDIT;2NDIX;2NDI;2NDIP",
  "2NDIEX;2NDIE;2NDAT;2NDAX;2NDA;2NDAP;2NDOT;2NDOX;2NDO;2NDOP;2NDEX;2NDE;2NDEP;2NDUT;2NDUX;2NDU",
  "2NDUP;2NDURX;2NDUR;2HNIT;2HNIX;2HNI;2HNIP;2HNIET;2HNIEX;2HNIE;2HNIEP;2HNAT;2HNAX;2HNA;2HNAP",
  "2HNUOX;2HNUO;2HNOT;2HNOX;2HNOP;2HNEX;2HNE;2HNEP;2HNUT;2NIT;2NIX;2NI;2NIP;2NIEX;2NIE;2NIEP;2NAX",
  "2NA;2NAP;2NUOX;2NUO;2NUOP;2NOT;2NOX;2NO;2NOP;2NEX;2NE;2NEP;2NUT;2NUX;2NU;2NUP;2NURX;2NUR;2HLIT",
  "2HLIX;2HLI;2HLIP;2HLIEX;2HLIE;2HLIEP;2HLAT;2HLAX;2HLA;2HLAP;2HLUOX;2HLUO;2HLUOP;2HLOX;2HLO",
  "2HLOP;2HLEX;2HLE;2HLEP;2HLUT;2HLUX;2HLU;2HLUP;2HLURX;2HLUR;2HLYT;2HLYX;2HLY;2HLYP;2HLYRX;2HLYR",
  "2LIT;2LIX;2LI;2LIP;2LIET;2LIEX;2LIE;2LIEP;2LAT;2LAX;2LA;2LAP;2LUOT;2LUOX;2LUO;2LUOP;2LOT;2LOX",
  "2LO;2LOP;2LEX;2LE;2LEP;2LUT;2LUX;2LU;2LUP;2LURX;2LUR;2LYT;2LYX;2LY;2LYP;2LYRX;2LYR;2GIT;2GIX",
  "2GI;2GIP;2GIET;2GIEX;2GIE;2GIEP;2GAT;2GAX;2GA;2GAP;2GUOT;2GUOX;2GUO;2GUOP;2GOT;2GOX;2GO;2GOP",
  "2GET;2GEX;2GE;2GEP;2GUT;2GUX;2GU;2GUP;2GURX;2GUR;2KIT;2KIX;2KI;2KIP;2KIEX;2KIE;2KIEP;2KAT;2KAX",
  "2KA;2KAP;2KUOX;2KUO;2KUOP;2KOT;2KOX;2KO;2KOP;2KET;2KEX;2KE;2KEP;2KUT;2KUX;2KU;2KUP;2KURX;2KUR",
  "2GGIT;2GGIX;2GGI;2GGIEX;2GGIE;2GGIEP;2GGAT;2GGAX;2GGA;2GGAP;2GGUOT;2GGUOX;2GGUO;2GGUOP;2GGOT",
  "2GGOX;2GGO;2GGOP;2GGET;2GGEX;2GGE;2GGEP;2GGUT;2GGUX;2GGU;2GGUP;2GGURX;2GGUR;2MGIEX;2MGIE;2MGAT",
  "2MGAX;2MGA;2MGAP;2MGUOX;2MGUO;2MGUOP;2MGOT;2MGOX;2MGO;2MGOP;2MGEX;2MGE;2MGEP;2MGUT;2MGUX;2MGU",
  "2MGUP;2MGURX;2MGUR;2HXIT;2HXIX;2HXI;2HXIP;2HXIET;2HXIEX;2HXIE;2HXIEP;2HXAT;2HXAX;2HXA;2HXAP",
  "2HXUOT;2HXUOX;2HXUO;2HXUOP;2HXOT;2HXOX;2HXO;2HXOP;2HXEX;2HXE;2HXEP;2NGIEX;2NGIE;2NGIEP;2NGAT",
  "2NGAX;2NGA;2NGAP;2NGUOT;2NGUOX;2NGUO;2NGOT;2NGOX;2NGO;2NGOP;2NGEX;2NGE;2NGEP;2HIT;2HIEX;2HIE",
  "2HAT;2HAX;2HA;2HAP;2HUOT;2HUOX;2HUO;2HUOP;2HOT;2HOX;2HO;2HOP;2HEX;2HE;2HEP;2WAT;2WAX;2WA;2WAP",
  "2WUOX;2WUO;2WUOP;2WOX;2WO;2WOP;2WEX;2WE;2WEP;2ZIT;2ZIX;2ZI;2ZIP;2ZIEX;2ZIE;2ZIEP;2ZAT;2ZAX;2ZA",
  "2ZAP;2ZUOX;2ZUO;2ZUOP;2ZOT;2ZOX;2ZO;2ZOP;2ZEX;2ZE;2ZEP;2ZUT;2ZUX;2ZU;2ZUP;2ZURX;2ZUR;2ZYT;2ZYX",
  "2ZY;2ZYP;2ZYRX;2ZYR;2CIT;2CIX;2CI;2CIP;2CIET;2CIEX;2CIE;2CIEP;2CAT;2CAX;2CA;2CAP;2CUOX;2CUO",
  "2CUOP;2COT;2COX;2CO;2COP;2CEX;2CE;2CEP;2CUT;2CUX;2CU;2CUP;2CURX;2CUR;2CYT;2CYX;2CY;2CYP;2CYRX",
  "2CYR;2ZZIT;2ZZIX;2ZZI;2ZZIP;2ZZIET;2ZZIEX;2ZZIE;2ZZIEP;2ZZAT;2ZZAX;2ZZA;2ZZAP;2ZZOX;2ZZO;2ZZOP",
  "2ZZEX;2ZZE;2ZZEP;2ZZUX;2ZZU;2ZZUP;2ZZURX;2ZZUR;2ZZYT;2ZZYX;2ZZY;2ZZYP;2ZZYRX;2ZZYR;2NZIT;2NZIX",
  "2NZI;2NZIP;2NZIEX;2NZIE;2NZIEP;2NZAT;2NZAX;2NZA;2NZAP;2NZUOX;2NZUO;2NZOX;2NZOP;2NZEX;2NZE;2NZUX",
  "2NZU;2NZUP;2NZURX;2NZUR;2NZYT;2NZYX;2NZY;2NZYP;2NZYRX;2NZYR;2SIT;2SIX;2SI;2SIP;2SIEX;2SIE;2SIEP",
  "2SAT;2SAX;2SA;2SAP;2SUOX;2SUO;2SUOP;2SOT;2SOX;2SO;2SOP;2SEX;2SE;2SEP;2SUT;2SUX;2SU;2SUP;2SURX",
  "2SUR;2SYT;2SYX;2SY;2SYP;2SYRX;2SYR;2SSIT;2SSIX;2SSI;2SSIP;2SSIEX;2SSIE;2SSIEP;2SSAT;2SSAX;2SSA",
  "2SSAP;2SSOT;2SSOX;2SSO;2SSOP;2SSEX;2SSE;2SSEP;2SSUT;2SSUX;2SSU;2SSUP;2SSYT;2SSYX;2SSY;2SSYP",
  "2SSYRX;2SSYR;2ZHAT;2ZHAX;2ZHA;2ZHAP;2ZHUOX;2ZHUO;2ZHUOP;2ZHOT;2ZHOX;2ZHO;2ZHOP;2ZHET;2ZHEX;2ZHE",
  "2ZHEP;2ZHUT;2ZHUX;2ZHU;2ZHUP;2ZHURX;2ZHUR;2ZHYT;2ZHYX;2ZHY;2ZHYP;2ZHYRX;2ZHYR;2CHAT;2CHAX;2CHA",
  "2CHAP;2CHUOT;2CHUOX;2CHUO;2CHUOP;2CHOT;2CHOX;2CHO;2CHOP;2CHET;2CHEX;2CHE;2CHEP;2CHUX;2CHU;2CHUP",
  "2CHURX;2CHUR;2CHYT;2CHYX;2CHY;2CHYP;2CHYRX;2CHYR;2RRAX;2RRA;2RRUOX;2RRUO;2RROT;2RROX;2RRO;2RROP",
  "2RRET;2RREX;2RRE;2RREP;2RRUT;2RRUX;2RRU;2RRUP;2RRURX;2RRUR;2RRYT;2RRYX;2RRY;2RRYP;2RRYRX;2RRYR",
  "2NRAT;2NRAX;2NRA;2NRAP;2NROX;2NRO;2NROP;2NRET;2NREX;2NRE;2NREP;2NRUT;2NRUX;2NRU;2NRUP;2NRURX",
  "2NRUR;2NRYT;2NRYX;2NRY;2NRYP;2NRYRX;2NRYR;2SHAT;2SHAX;2SHA;2SHAP;2SHUOX;2SHUO;2SHUOP;2SHOT",
  "2SHOX;2SHO;2SHOP;2SHET;2SHEX;2SHE;2SHEP;2SHUT;2SHUX;2SHU;2SHUP;2SHURX;2SHUR;2SHYT;2SHYX;2SHY",
  "2SHYP;2SHYRX;2SHYR;2RAT;2RAX;2RA;2RAP;2RUOX;2RUO;2RUOP;2ROT;2ROX;2RO;2ROP;2REX;2RE;2REP;2RUT",
  "2RUX;2RU;2RUP;2RURX;2RUR;2RYT;2RYX;2RY;2RYP;2RYRX;2RYR;2JIT;2JIX;2JI;2JIP;2JIET;2JIEX;2JIE",
  "2JIEP;2JUOT;2JUOX;2JUO;2JUOP;2JOT;2JOX;2JO;2JOP;2JUT;2JUX;2JU;2JUP;2JURX;2JUR;2JYT;2JYX;2JY",
  "2JYP;2JYRX;2JYR;2QIT;2QIX;2QI;2QIP;2QIET;2QIEX;2QIE;2QIEP;2QUOT;2QUOX;2QUO;2QUOP;2QOT;2QOX;2QO",
  "2QOP;2QUT;2QUX;2QU;2QUP;2QURX;2QUR;2QYT;2QYX;2QY;2QYP;2QYRX;2QYR;2JJIT;2JJIX;2JJI;2JJIP;2JJIET",
  "2JJIEX;2JJIE;2JJIEP;2JJUOX;2JJUO;2JJUOP;2JJOT;2JJOX;2JJO;2JJOP;2JJUT;2JJUX;2JJU;2JJUP;2JJURX",
  "2JJUR;2JJYT;2JJYX;2JJY;2JJYP;2NJIT;2NJIX;2NJI;2NJIP;2NJIET;2NJIEX;2NJIE;2NJIEP;2NJUOX;2NJUO",
  "2NJOT;2NJOX;2NJO;2NJOP;2NJUX;2NJU;2NJUP;2NJURX;2NJUR;2NJYT;2NJYX;2NJY;2NJYP;2NJYRX;2NJYR;2NYIT",
  "2NYIX;2NYI;2NYIP;2NYIET;2NYIEX;2NYIE;2NYIEP;2NYUOX;2NYUO;2NYUOP;2NYOT;2NYOX;2NYO;2NYOP;2NYUT",
  "2NYUX;2NYU;2NYUP;2XIT;2XIX;2XI;2XIP;2XIET;2XIEX;2XIE;2XIEP;2XUOX;2XUO;2XOT;2XOX;2XO;2XOP;2XYT",
  "2XYX;2XY;2XYP;2XYRX;2XYR;2YIT;2YIX;2YI;2YIP;2YIET;2YIEX;2YIE;2YIEP;2YUOT;2YUOX;2YUO;2YUOP;2YOT",
  "2YOX;2YO;2YOP;2YUT;2YUX;2YU;2YUP;2YURX;2YUR;2YYT;2YYX;2YY;2YYP;2YYRX;2YYR;a490:1RADICAL QOT;2LI",
  "2KIT;2NYIP;2CYP;2SSI;2GGOP;2GEP;2MI;2HXIT;2LYR;2BBUT;2MOP;2YO;2PUT;2HXUO;2TAT;2GA;2ZUP;2CYT",
  "2DDUR;2BUR;2GGUO;2NYOP;2TU;2OP;2JJUT;2ZOT;2PYT;2HMO;2YIT;2VUR;2SHY;2VEP;2ZA;2JO;2NZUP;2JJY;2GOT",
  "2JJIE;2WO;2DU;2SHUR;2LIE;2CY;2CUOP;2CIP;2HXOP;2SHAT;2ZUR;2SHOP;2CHE;2ZZIET;2NBIE;2KE",
  "a4d0:0LISU l BA;2PA;2PHA;2DA;2TA;2THA;2GA;2KA;2KHA;2JA;2CA;2CHA;2DZA;2TSA;2TSHA;2MA;2NA;2LA;2SA",
  "2ZHA;2ZA;2NGA;2HA;2XA;2HHA;2FA;2WA;2SHA;2YA;2GHA;2A;2AE;2E;2EU;2I;2O;2U;2UE;2UH;2OE;2to MYA TI",
  "3NA PO;3MYA CYA;4BO;4NA;4JEU;1pu*2 91a 1;0VAI SYLLABLE EE;2EEN;2HEE;2WEE;2WEEN;2PEE;2BHEE;2BEE",
  "2MBEE;2KPEE;2MGBEE;2GBEE;2FEE;2VEE;2TEE;2THEE;2DHEE;2DHHEE;2LEE;2REE;2DEE;2NDEE;2SEE;2SHEE;2ZEE",
  "2ZHEE;2CEE;2JEE;2NJEE;2YEE;2KEE;2NGGEE;2GEE;2MEE;2NEE;2NYEE;2I;2IN;2HI;2HIN;2WI;2WIN;2PI;2BHI",
  "2BI;2MBI;2KPI;2MGBI;2GBI;2FI;2VI;2TI;2THI;2DHI;2DHHI;2LI;2RI;2DI;2NDI;2SI;2SHI;2ZI;2ZHI;2CI;2JI",
  "2NJI;2YI;2KI;2NGGI;2GI;2MI;2NI;2NYI;2A;2AN;2NGAN;2HA;2HAN;2WA;2WAN;2PA;2BHA;2BA;2MBA;2KPA;2KPAN",
  "2MGBA;2GBA;2FA;2VA;2TA;2THA;2DHA;2DHHA;2LA;2RA;2DA;2NDA;2SA;2SHA;2ZA;2ZHA;2CA;2JA;2NJA;2YA;2KA",
  "2KAN;2NGGA;2GA;2MA;2NA;2NYA;2OO;2OON;2HOO;2WOO;2WOON;2POO;2BHOO;2BOO;2MBOO;2KPOO;2MGBOO;2GBOO",
  "2FOO;2VOO;2TOO;2THOO;2DHOO;2DHHOO;2LOO;2ROO;2DOO;2NDOO;2SOO;2SHOO;2ZOO;2ZHOO;2COO;2JOO;2NJOO",
  "2YOO;2KOO;2NGGOO;2GOO;2MOO;2NOO;2NYOO;2U;2UN;2HU;2HUN;2WU;2WUN;2PU;2BHU;2BU;2MBU;2KPU;2MGBU",
  "2GBU;2FU;2VU;2TU;2THU;2DHU;2DHHU;2LU;2RU;2DU;2NDU;2SU;2SHU;2ZU;2ZHU;2CU;2JU;2NJU;2YU;2KU;2NGGU",
  "2GU;2MU;2NU;2NYU;2O;2ON;2NGON;2HO;2HON;2WO;2WON;2PO;2BHO;2BO;2MBO;2KPO;2MGBO;2GBO;2GBON;2FO;2VO",
  "2TO;2THO;2DHO;2DHHO;2LO;2RO;2DO;2NDO;2SO;2SHO;2ZO;2ZHO;2CO;2JO;2NJO;2YO;2KO;2NGGO;2GO;2MO;2NO",
  "2NYO;2E;2EN;2NGEN;2HE;2HEN;2WE;2WEN;2PE;2BHE;2BE;2MBE;2KPE;2KPEN;2MGBE;2GBE;2GBEN;2FE;2VE;2TE",
  "2THE;2DHE;2DHHE;2LE;2RE;2DE;2NDE;2SE;2SHE;2ZE;2ZHE;2CE;2JE;2NJE;2YE;2KE;2NGGE;2NGGEN;2GE;2GEN",
  "2ME;2NE;2NYE;2NG;2LENGTHENER;1*2 a29 1;1qe x;1SYLLABLE NDOLE FA;3KA;3SOO;1y FEENG;2KEENG;2TING",
  "2NII;2BANG;2FAA;2TAA;2DANG;2DOONG;2KUNG;2TONG;2DO-O;2JONG;1dg*a 6fc 5;1SYLLABLE NDOLE MA;3DO",
  "a640:0CYRILLIC c l ZEMLYA;&;1c l DZELO;&;1c l re DZE;&;1c l IOTA;&;1c l DJERV;&;1c*1 c0d 2;&",
  "1c l BROAD OMEGA;&;1c l NEUTRAL YER;&;1c l YERU w BACK YER;&;1c l IOTIFIED YAT;&;1c l re YU;&",
  "1c*1 c16 2;&;1c l cl lt YUS;&;1c l BLENDED YUS;&;1c l IOTIFIED*1 4 3;&;1c l YN;&;1c l re TSE;&",
  "1c l SOFT DE;&;1c l SOFT EL;&;1c l SOFT EM;&;1c l MONOCULAR O;&;1c l BINOCULAR O;&;1c l d*1 4 3",
  "&;1l MULTIOCULAR O;0co CYRILLIC VZMET;2TEN MILLIONS s;2hu*1 1 3;2th*1 2 3;0SLAVONIC as",
  "0co CYRILLIC l UKRAINIAN IE;3I;3YI;3U;3HARD s;3YERU;3SOFT s;3OMEGA;2KAVYKA;2PAYEROK;0*2 2 1",
  "1c l DWE;&;1c l DZWE;&;1c l ZHWE;&;1c l CCHE;&;1c l DZZE;&;1c l TE w mi ho;&;1c l TWE;&",
  "1c l TSWE;&;1c l TSSE;&;1c l TCHE;&;1c l HWE;&;1c l SHWE;&;1c l d O;&;1c l CROSSED O;&",
  "0mf l CYRILLIC HARD s;3SOFT s;0co CYRILLIC l EF;3IOTIFIED E;0BAMUM l A;2KA;2U;2KU;2EE;2REE;2TAE",
  "2O;2NYI;2I;2LA;2PA;2RII;2RIEE;2LEEEE;2MEEEE;2TAA;2NDAA;2NJAEM;2M;2SUU;2MU;2SHII;2SI;2SHEUX",
  "2SEUX;2KYEE;2KET;2NUAE;2NU;2NJUAE;2YOQ;2SHU;2YUQ;2YA;2NSHA;2KEUX;2PEUX;2NJEE;2NTEE;2PUE;2WUE",
  "2PEE;2FEE;2RU;2LU;2MI;2NI;2REUX;2RAE;2KEN;2NGKWAEN;2NGGA;2NGA;2SHO;2PUAE;2FU;2FOM;2WA;2NA;2LI",
  "2PI;2LOQ;2KO;2MBEN;2REN;2MEN;2MA;2TI;2KI;2MO;2MBAA;2TET;2KPA;2TEN;2NTUU;2SAMBA;2FAAMAE;2KOVUU",
  "2KOGHOM;1co x KOQNDON;3TUKWENTIS;1NJAEMLI;1FULL so;1COLON;1cm;1SEMICOLON;1qe x",
  "a700:0mf l CHINESE to YIN PING;4YANG PING;4YIN SHANG;4YANG SHANG;4YIN QU;4YANG QU;4YIN RU",
  "4YANG RU;2EXTRA-HIGH dd to BAR;2hg*1 1 3;2MID*1 2 3;2LOW*1 3 3;2EXTRA-LOW*1 4 3",
  "2EXTRA-HIGH dd LEFT-STEM to BAR;2hg*1 1 3;2MID*1 2 3;2LOW*1 3 3;2EXTRA-LOW*1 4 3",
  "2EXTRA-HIGH*1 5 4;2hg*1 6 4;2MID*1 7 4;2LOW*1 8 4;2EXTRA-LOW*1 9 4;2DOT v BAR;3SLASH;3z BAR",
  "2lo r cd ag;2RAISED UP a;3dw a;3ex x;3in ex x;2LOW*1 1 3;2STRESS k hg to;4LOW to",
  "0lb c l EGYPTOLOGICAL al;&;1c l EGYPTOLOGICAL AIN;&;1c l HENG;&;1c l TZ;&;1c l TRESILLO;&",
  "1c l CUATRILLO;&;1c l CUATRILLO w cm;&;1l m c F;4S;1c l AA;&;1c l AO;&;1c l AU;&;1c l AV;&",
  "1c l AV w z BAR;&;1c l AY;&;1c l re C w DOT;&;1c l K w st;&;1c l K w da st;&",
  "1c l K w st k da st;&;1c l BROKEN L;&;1c l L w hg st;&;1c l O w ln st OVERLAY;&;1c l O w LOOP;&",
  "1c l OO;&;1c l P w st THROUGH dc;&;1c l P w FLOURISH;&;1c l P w SQUIRREL TAIL;&;1c l Q*1 6 4;&",
  "1c l Q w da st;&;1c l R ROTUNDA;&;1c l RUM*1 2 4;&;1c l V*1 6 4;&;1c l VY;&;1c l VISIGOTHIC Z;&",
  "1c l THORN w st;&;1c l THORN*1 16 4;&;1c l VEND;&;1c l ET;&;1c l IS;&;1c l CON;&;0mf l US",
  "0lb m l DUM;3LUM;3MUM;3NUM;3RUM;1l m c RUM;1m l TUM;3UM;1c l INSULAR D;&;1c l INSULAR F;&",
  "1c l INSULAR G;3tu*1 1 3;&;1c l tu L;&;1c l INSULAR R;&;1c l INSULAR S;&;1c l INSULAR T;&",
  "0mf l LOW cr ad;2COLON;2sh ea s;0lb c l SALTILLO;&;1c l tu H;1m l L w rt ho k BELT",
  "1l SINOLOGICAL DOT;1c l N w dc;&;1c l C w BAR;&;5pt ho;3H*1 1 4;1c l B*1 44 4;&;1c l F w st;&",
  "1c l VOLAPUK AE;&;1c l VOLAPUK OE;&;1c l VOLAPUK UE;&;1c l G w OBLIQUE st;&;1c l K*1 2 4;&",
  "1c l N*1 4 4;&;1c l R*1 6 4;&;1c l S*1 8 4;&;1c l H w ho;3re oe E;3SCRIPT G;3L w BELT;3m c I",
  "1l m c Q;1c l tu K;4T;3J w CROSSED-TAIL;3CHI;3BETA;&;1c l OMEGA;&;1c l U w st;&;1c l GLOTTAL A",
  "&;1c l GLOTTAL I;&;1c l GLOTTAL U;&;1c l OLD POLISH O;&;1c l ANGLICANA W;&;1c*1 30 2;3S w ho",
  "3Z*1 2 4;3D w sh*1 7d 6;&;1c l S*1 2 4;&;a7d0:1c l cl*1 4e 3;&;a7d3:3d THORN;a7d5:4WYNN",
  "1c l mi SCOTS S;&;1c l SIGMOID S;&;a7f2:0mf l c C;3F;3Q;0lb c l re hl H;&",
  "1EPIGRAPHIC l SIDEWAYS I;0mf l c H w st;2m lg OE;0lb l m c tu M;1EPIGRAPHIC l re F;4P;3in M",
  "3I LONGA;3ARCHAIC M;0SYLOTI NAGRI l A;3I;2s DVISVARA;2l U;3E;3O;2s HASANTA;2l KO;3KHO;3GO;3GHO",
  "2s an;2l CO;3CHO;3JO;3JHO;3TTO;3TTHO;3DDO;3DDHO;3TO;3THO;3DO;3DHO;3NO;3PO;3PHO;3BO;3BHO;3MO;3RO",
  "3LO;3RRO;3SO;3HO;2vo s*4 94c 2;4OO;2POETRY MARK-1;+3;2s aa HASANTA",
  "a830:0no INDIC FRACTION ONE qa;4hl;3j QUARTERS;3ONE SIXTEENTH;4EIGHTH;3j SIXTEENTHS;2qa x",
  "2PLACEHOLDER x;2RUPEE x;2QUANTITY x;a840:0PHAGS-PA*2 325 1;2GA;2NGA;2CA;2CHA;2JA;2NYA;2TA;2THA",
  "2DA;2NA;2PA;2PHA;2BA;2MA;2TSA;2TSHA;2DZA;2WA;2ZHA;2ZA;2m A;2YA;2RA;2LA;2SHA;2SA;2HA;2*5 97d 2",
  "2QA;2XA;2FA;2GGA;2EE;1SUBJOINED l WA;3YA;1l TTA;2TTHA;2DDA;2NNA;2aa YA;2VOICELESS SHA",
  "2VOICED HA;2ASPIRATED FA;1SUBJOINED l RA;1SUPERFIXED l RA;1l ca;1si HEAD x;1d HEAD x;1x SHAD",
  "2d SHAD;a880:0SAURASHTRA s an;2vi;1l A;2AA;2I;2II;2U;2UU;2vc R;3RR;3L;3LL;2E;2EE;2AI;2O;2OO;2AU",
  "1*3 4a 1;2GHA;1*4 4b 1;2JHA;2NYA;1*3 2b 1;2DDHA;2NNA;1*3 51 1;2DHA;1*4 52 1;2BHA;2MA;1*3 4c 1",
  "2VA;2SHA;2SSA;2SA;2HA;2LLA;1cn s HAARU;1vo s*f 32 2;1s vr;2ca;a8ce:1DANDA;1d DANDA;1*a 25c 1",
  "a8e0:0co DEVANAGARI*a a 1;2l A;3U;3KA;3NA;3PA;3RA;3VI;2s AVAGRAHA;0DEVANAGARI s SPACING ca",
  "2ca vr;2d ca vr;2ca TWO;3j;3*1 6 3;2PUSHPIKA;1GAP FILLER;1CARET;1HEADSTROKE;1s SIDDHAM;1JAIN OM",
  "1l AY;1vo s AY;0KAYAH LI*a 286 1;2*4 b4 1;3*3 352 2;3NYA;3TA;3HTA;2*3 b3 1;3MA;3DA;3BA;3RA;3YA",
  "3LA;3WA;3THA;3HA;3VA;3CA;3A;3OE;3I;3OO;2vo UE;3E;3U;3EE;3O;2to PLOPHU;3CALYA;4PLOPHU;2s CWI",
  "3SHYA;0REJANG l KA;2GA;2NGA;2TA;1*3 d4 1;2BA;2MA;2CA;2JA;2NYA;2SA;2RA;2LA;2YA;2WA;2HA;2MBA",
  "2NGGA;2NDA;2NYJA;2A;1*3 104 2;3AI;3O;3AU;3EU;3EA;1cn s NG;3N;3R;3H;1vr;a95f:1SECTION x",
  "0HANGUL CHOSEONG TIKEUT-MIEUM;2TIKEUT-PIEUP;2TIKEUT-SIOS;2TIKEUT-CIEUC;2*1 beb 2",
  "2RIEUL-SSANGKIYEOK;2*1 bbd 2;2RIEUL-SSANGTIKEUT;2*2 bee 2;2RIEUL-SSANGPIEUP",
  "2RIEUL-KAPYEOUNPIEUP;2*1 bf0 2;2RIEUL-CIEUC;2RIEUL-KHIEUKH;2MIEUM-KIYEOK;2MIEUM-TIKEUT",
  "2*1 bc3 2;2PIEUP-SIOS-THIEUTH;2PIEUP-KHIEUKH;2PIEUP-HIEUH;2SSANGSIOS-PIEUP;2IEUNG-RIEUL",
  "2IEUNG-HIEUH;2SSANGCIEUC-HIEUH;2SSANGTHIEUTH;2PHIEUPH-HIEUH;2HIEUH-SIOS;2SSANGYEORINHIEUH",
  "a980:0JAVANESE s PANYANGGA;2CECAK;2LAYAR;2WIGNYAN;1l A;2I KAWI;2I;2II;2U;2PA CEREK;2NGA LELET",
  "4RASWADI;2E;2AI;2O;2KA;3SASAK;3MURDA;2GA;3MURDA;2NGA;2CA;3MURDA;2JA;2NYA MURDA;2JA MAHAPRANA",
  "2NYA;2TTA;3*1 3 3;2DDA;3*1 5 3;2NA MURDA;2TA;3MURDA;2DA;3*1 a 3;2NA;2PA;3MURDA;2BA;3MURDA",
  "1*3 e3 1;3AGUNG;2LA;2WA;2SA MURDA;3*1 17 3;2SA;2HA;1s CECAK TELU;1vo s TARUNG;3TOLONG;3WULU",
  "4MELIK;3SUKU;4MENDUT;3TALING;3DIRGA MURE;3PEPET;1cn s KERET;3PENGKAL;3CAKRA;1PANGKON",
  "1e RERENGGAN;1r*1 1 2;1PADA ANDAP;2MADYA;2LUHUR;2WINDU;2PANGKAT;2LINGSA;2LUNGSI;2ADEG;3ADEG",
  "2PISELEH;1tu*1 1 1;a9cf:1PANGRANGKEP;1*a 347 1;a9de:1PADA TIRTA TUMETES;2ISEN-ISEN",
  "0MYANMAR l SHAN GHA;3CHA;3JHA;3NNA;3BHA;1s SHAN SAW;1mf l SHAN REDUPLICATION;1l TAI LAING NYA",
  "4FA;4GA;4GHA;4JA;4JHA;4*3 12e 2;1TAI LAING*a 363 1;1l TAI LAING LLA;4DA;4DHA;4BA;4BHA",
  "aa00:0CHAM l A;2*5 a6 3;1*4 152 1;2NGUE;2NGA;2CHA;2CHHA;2JA;2JHA;2NHUE;2NHA;2NHJA;1*4 150 1",
  "2NUE;2NA;2DDA;2PA;2PPA;1*3 153 1;2MUE;2MA;2BBA;1*4 155 1;1*3 154 1;1*3 152 1;3EI;3U;3OE;3O;3AI",
  "3AU;3UE;1cn s*3 1b2 2;3WA;aa40:1l n K;3G;3NG;1cn s n NG;1l n CH;3T;3N;3P;3Y;3R;3L;3SS;1cn s n M",
  "4H;aa50:1*a 3b7 1;aa5c:1pu SPIRAL;2*2 168 1;2tp DANDA;0MYANMAR l KHAMTI GA;3*9 19b 2;3DHA;3NA",
  "3SA;3HA;3HHA;3FA;1mf l KHAMTI*1 7c 4;1l KHAMTI XA;3ZA;3RA;1LOGOGRAM KHAMTI OAY;3QN;3HM",
  "1y AITON ex;3ONE;3TWO;1l AITON RA;1s PAO KAREN to;2TAI LAING TONE-2;4TONE-5;1l SHWE PALAUNG CHA",
  "4SHA;0TAI VIET l LOW KO;3hg KO;3LOW KHO;3hg KHO;3LOW KHHO;3hg KHHO;3LOW GO;3hg GO;3LOW NGO",
  "3hg NGO;3LOW CO;3hg CO;3LOW CHO;3hg CHO;3LOW SO;3hg SO;3LOW NYO;3hg NYO;3LOW DO;3hg DO;3LOW TO",
  "3hg TO;3LOW THO;3hg THO;3LOW NO;3hg NO;3LOW BO;3hg BO;3LOW PO;3hg PO;3LOW PHO;3hg PHO;3LOW FO",
  "3hg FO;3LOW MO;3hg MO;3LOW YO;3hg YO;3LOW RO;3hg RO;3LOW LO;3hg LO;3LOW VO;3hg VO;3LOW HO",
  "3hg HO;3LOW O;3hg O;2MAI KANG;2vo AA;3I;3UE;3U;3E;3O;2MAI KHIT;2vo IA;3UEA;3UA;3AUE;3AY;3AN;3AM",
  "2to MAI EK;4NUENG;4THO;4SONG;aadb:2y KON;3NUENG;3SAM;3HO HOI;3KOI KOI;0MEETEI MAYEK l E;3O;3CHA",
  "2*6 201 1;3SHA;3SSA;2vo s II;4UU;4AAI;4AU;4AAU;2CHEIKHAN;2AHANG KHUDAM;2ANJI",
  "2SYLLABLE REPETITION x;2WORD*1 1 3;2vo s vi;2vr;ab01:0ETHIOPIC SYLLABLE TTHU;2TTHI;2TTHAA",
  "2TTHEE;2TTHE;2TTHO;ab09:2DDHU;2DDHI;2DDHAA;2DDHEE;2DDHE;2DDHO;ab11:2DZU;2DZI;2DZAA;2DZEE;2DZE",
  "2DZO;ab20:2CCHHA;2CCHHU;2CCHHI;2CCHHAA;2CCHHEE;2CCHHE;2CCHHO;ab28:2BBA;2BBU;2BBI;2BBAA;2BBEE",
  "2BBE;2BBO;ab30:0lb m l BARRED ALPHA;3A REVERSED-SCHWA;3BLACKLETTER E;3BARRED E;3E*1 352 4",
  "3LENIS F;3SCRIPT G*1 2f4 4;3L w in LAZY S;5d mi tl;5mi rn;3M*1 4 5;3N*1 5 5;3ENG*1 6 5",
  "3BLACKLETTER O;5w st;3oe O w st;3in OE;3tu OE w st;6z st;4O OPEN-O;6w st;3STIRRUP R",
  "1l m c R w r LEG;1m l R WITHOUT HANDLE;3d R;3R*1 f 4;3d*1 1 3;3SCRIPT R;5w rn;3BASELINE ESH",
  "3U w sh r LEG;4BAR*1 1 4;3UI;3tu UI;3U w e ho;3CHI;4w LOW r rn;6e SERIF;3X*1 2 4;5ln e LEG",
  "8k*1 4 5;8w SERIF;3Y*1 c 4;0mf BREVE w in BREVE;1l m HENG;3*1 26 3;5mi tl;3*1 d 3",
  "0lb m l SAKHA YAT;2*1 42a 2;3oe OE;3UO;3in ALPHA;0GREEK l m c OMEGA;0lb m l DZ dr w rt ho",
  "3TS*1 1 4;3tu R*1 a 4;0mf l m tu W;2e TACK;2r TACK;ab70:0CHEROKEE m l A;3E;3I;3O;3U;3V;3GA;3KA",
  "3GE;3GI;3GO;3GU;3GV;3HA;3HE;3HI;3HO;3HU;3HV;3LA;3LE;3LI;3LO;3LU;3LV;3MA;3ME;3MI;3MO;3MU;3NA",
  "3HNA;3NAH;3NE;3NI;3NO;3NU;3NV;3QUA;3QUE;3QUI;3QUO;3QUU;3QUV;3SA;3S;3SE;3SI;3SO;3SU;3SV;3DA;3TA",
  "3DE;3TE;3DI;3TI;3DO;3DU;3DV;3DLA;3TLA;3TLE;3TLI;3TLO;3TLU;3TLV;3TSA;3TSE;3TSI;3TSO;3TSU;3TSV",
  "3WA;3WE;3WI;3WO;3WU;3WV;3YA;0MEETEI MAYEK l KOK;3SAM;3LAI;3MIT;3PA;3NA;3CHIL;3TIL;3KHOU;3NGOU",
  "3THOU;3WAI;3YANG;3HUK;3UN;3I;3PHAM;3ATIYA;3GOK;3JHAM;3RAI;3BA;3JIL;3DIL;3GHOU;3DHOU;3BHAM",
  "3KOK LONSUM;3LAI LONSUM;3MIT LONSUM;3PA LONSUM;3NA LONSUM;3TIL LONSUM;3NGOU LONSUM;3I LONSUM",
  "2vo s ONAP;4INAP;4ANAP;4YENAP;4SOUNAP;4UNAP;4CHEINAP;4NUNG;2CHEIKHEI;2LUM IYEK;2APUN IYEK",
  "abf0:2*a 51e 1;d7b0:0HANGUL JUNGSEONG O-YEO;2O-O-I;2YO-A;2YO-AE;2YO-EO;2U-YEO;2U-I-I;2YU-AE",
  "2YU-O;2EU-A;2EU-EO;2EU-E;2EU-O;2I-YA-O;2I-YAE;2I-YEO;2I-YE;2I-O-I;2I-YO;2I-YU;2I-I;2ARAEA-A",
  "2ARAEA-E;d7cb:1JONGSEONG NIEUN-RIEUL;2NIEUN-CHIEUCH;2*1 e4f 2;2SSANGTIKEUT-PIEUP;2*2 267 2",
  "2TIKEUT-SIOS-KIYEOK;2*1 268 2;2TIKEUT-CHIEUCH;2TIKEUT-THIEUTH;2*1 269 2;2RIEUL-KIYEOK-HIEUH",
  "2SSANGRIEUL-KHIEUKH;2RIEUL-MIEUM-HIEUH;2RIEUL-PIEUP-TIKEUT;2RIEUL-PIEUP-PHIEUPH;2RIEUL-YESIEUNG",
  "2RIEUL-YEORINHIEUH-HIEUH;2KAPYEOUNRIEUL;2MIEUM-NIEUN;2MIEUM-SSANGNIEUN;2SSANGMIEUM",
  "2MIEUM-PIEUP-SIOS;2MIEUM-CIEUC;2*1 e2a 2;2PIEUP-RIEUL-PHIEUPH;2PIEUP-MIEUM;2*1 e5d 2;2*2 e2c 2",
  "2PIEUP-CHIEUCH;2SIOS-MIEUM;2SIOS-KAPYEOUNPIEUP;2SSANGSIOS-KIYEOK;2SSANGSIOS-TIKEUT",
  "2SIOS-PANSIOS;2*1 e2b 2;2SIOS-CHIEUCH;2SIOS-THIEUTH;2SIOS-HIEUH;2PANSIOS-PIEUP",
  "2PANSIOS-KAPYEOUNPIEUP;2YESIEUNG-MIEUM;2YESIEUNG-HIEUH;2CIEUC-PIEUP;2CIEUC-SSANGPIEUP;2*1 e6a 2",
  "2PHIEUPH-SIOS;2PHIEUPH-THIEUTH;fb00:0lb m lg FF;3FI;3FL;3FFI;3FFL;3ln S T;3ST",
  "fb13:0ARMENIAN m lg MEN NOW;4ECH;4INI;3VEW NOW;3MEN XEH;fb1d:0HEBREW l YOD w HIRIQ",
  "1POINT JUDEO-SPANISH VARIKA;1lg YIDDISH YOD YOD PATAH;1l ALTERNATIVE AYIN;2WIDE al;3DALET;3HE",
  "3KAF;3LAMED;3n MEM;3RESH;3TAV;2ALTERNATIVE pl s;2SHIN w SHIN DOT;4SIN DOT;4DAGESH k*2 2 4",
  "2al w PATAH;4QAMATS;4MAPIQ;2BET w DAGESH;2GIMEL*1 1 3;2DALET*1 2 3;2HE*1 4 3;2VAV*1 4 3",
  "2ZAYIN*1 5 3;fb38:2TET*1 6 3;2YOD*1 7 3;2n KAF*1 8 3;2*1 1 3;2LAMED*1 a 3;fb3e:2MEM*1 b 3",
  "fb40:2NUN*1 c 3;2SAMEKH*1 d 3;fb43:2n PE*1 e 3;2*1 1 3;fb46:2TSADI*1 10 3;2QOF*1 11 3",
  "2RESH*1 12 3;2SHIN*1 13 3;2TAV*1 14 3;2VAV w HOLAM;2BET w RAFE;2KAF w RAFE;2PE w RAFE",
  "1lg al LAMED;0ARABIC l al WASLA i f;4n f;2BEEH*2 2 4;3h f;3md f;2PEH*4 4 3;2BEHEH*4 8 3",
  "2TTEHEH*4 c 3;2TEHEH*4 10 3;2TTEH*4 14 3;2VEH*4 18 3;2PEHEH*4 1c 3;2DYEH*4 20 3;2NYEH*4 24 3",
  "2TCHEH*4 28 3;2TCHEHEH*4 2c 3;2DDAHAL*2 32 4;2DAHAL*2 34 4;2DUL*2 36 4;2DDAL*2 38 4;2JEH*2 3a 4",
  "2RREH*2 3c 4;2KEHEH*4 3c 3;2GAF*4 40 3;2GUEH*4 44 3;2NGOEH*4 48 3;2NOON GHUNNA*2 4e 4",
  "2RNOON*4 4e 3;2HEH w YEH b*2 54 4;3GOAL*4 54 3;3DOACHASHMEE*4 58 3;2YEH BARREE*2 5e 4",
  "4w HAMZA*2 c 5;1y DOT b;3p;2TWO dt b;4p;2j*2 2 3;4po do b;6p;2fo*2 6 3;2d v BAR p",
  "2TWO dt VERTICALLY b;5p;2rn;2m TAH b;4p;2WASLA b;fbd3:1l NG*4 71 3;2U*2 77 4;2OE*2 79 4",
  "2YU*2 7b 4;2U*1 1d 4;2VE*2 7e 4;2KIRGHIZ*4 7 2;2E*4 82 3;2UIGHUR KAZAKH KIRGHIZ al ma*2 84 3",
  "1lg YEH w HAMZA b w al*2 8a 4;7AE*2 8c 4;7WAW*2 8e 4;7*6 19 2;7E*3 94 3",
  "2UIGHUR KIRGHIZ YEH w HAMZA b w al ma*3 97 3;1l FARSI YEH*4 9a 3;1lg YEH w HAMZA b w je i f",
  "7HAH i f;7mm i f;2*1 a 4;7YEH i f;2BEH*2 5 6;4KHAH i f;3*3 6 6;2TEH*6 6 3;2THEH*1 11 6;3*3 10 6",
  "2je*2 14 6;2HAH*2 6 3;2KHAH*3 19 6;2SEEN*4 17 3;2SAD*2 1f 6;2DAD*4 1d 3;2TAH*2 25 6;2ZAH*1 26 6",
  "2AIN*2 18 3;2GHAIN*2 1a 3;2FEH*6 28 3;2QAF*4 32 6;2KAF*1 4d 6;3*3 33 3;4LAM i f;3*3 3a 6",
  "2LAM*6 3a 3;2mm*6 40 3;2NOON*6 46 3;2HEH*4 40 3;2YEH*6 50 3;2THAL w SUPERSCRIPT al i f",
  "2REH*1 1 3;2al ma*1 2 3;2SHADDA w DAMMATAN i f;4KASRATAN i f;4FATHA i f;4DAMMA i f;4KASRA i f",
  "3*1 8 3;2YEH w HAMZA b w REH n f;7ZAIN n f;7mm n f;7NOON n f;2*1 6e 4;7YEH n f;2BEH*6 6 6",
  "2TEH*6 c 6;2THEH*6 12 6;2FEH*2 14 6;2QAF*2 16 6;2KAF*1 95 6;4LAM n f;4mm n f;3*2 1b 6",
  "2LAM*3 3 3;2mm*1 9d 6;4mm n f;2NOON*6 26 6;2al ma w SUPERSCRIPT al n f;2YEH*6 2d 6",
  "4HAMZA b w je h f;7HAH h f;7KHAH h f;7mm h f;7HEH h f;2BEH*5 5 6;2TEH*5 a 6;2THEH*1 c 6",
  "2je*1 f 6;4mm h f;2HAH*1 12 6;4mm h f;2KHAH*2 2 3;2SEEN*4 16 6;2SAD*3 19 6;2DAD*4 1d 6",
  "2TAH*1 20 6;2ZAH*1 1f 6;2AIN*2 11 3;2GHAIN*2 13 3;2FEH*4 27 6;2QAF*2 1b 3;2KAF*3 2d 6;4LAM h f",
  "4mm h f;2LAM*5 32 6;2mm*4 37 6;2NOON*5 3b 6;2HEH*2 2e 3;4SUPERSCRIPT al h f;2YEH*5 43 6",
  "4HAMZA b w mm md f;7HEH md f;2BEH*2 2 6;2TEH*2 4 6;2THEH*2 6 6;2SEEN*2 8 6;2SHEEN*2 a 6",
  "2KAF w LAM md f;4mm md f;2LAM*1 e 6;2NOON*2 f 6;2YEH*2 11 6;2SHADDA w FATHA md f;4DAMMA md f",
  "4KASRA md f;2TAH*2 f2 6;2AIN*2 f4 6;2GHAIN*2 f6 6;2SEEN*2 f8 6;2SHEEN*2 fa 6;2HAH*2 fc 6",
  "2je*2 fe 6;2KHAH*2 e 3;2SAD*2 e 3;2DAD*2 e 3;2SHEEN*4 104 3;4REH i f;2SEEN*1 1 3;2SAD*1 2 3",
  "2DAD*1 3 3;2TAH*2 a9 6;2AIN*2 ab 6;2GHAIN*2 ad 6;2SEEN*2 af 6;2SHEEN*2 b1 6;2HAH*2 b3 6",
  "2je*2 b5 6;2KHAH*2 b7 6;2SAD*2 b9 6;2DAD*2 bb 6;2SHEEN w je n f;4HAH n f;4KHAH n f;4mm n f",
  "4REH n f;2SEEN*1 c6 6;2SAD*1 c7 6;2DAD*1 c8 6;2SHEEN*4 96 6;2SEEN*1 96 6;2SHEEN*1 97 6",
  "2TAH*1 99 6;2SEEN w je md f;4HAH md f;4KHAH md f;2SHEEN*3 3 3;2TAH*1 5b 6;2ZAH*1 5c 6",
  "2al w FATHATAN n f;5i f;0ORNATE*2 131f 2;0ARABIC lg RAHIMAHU ALLAAH;2RADI ALLAAHU ANH;4ANHAA",
  "4ANHUM;4ANHUMAA;4ANHUNNA;2SALLALLAAHU ALAYHI WA-AALIH;2ALAYHI AS-SALAAM;2ALAYHIM*1 1 3",
  "2ALAYHIMAA*1 2 3;2ALAYHI AS-SALAATU WAS-SALAAM;2QUDDISA SIRRAH",
  "2SALLALLAHU ALAYHI WAAALIHEE WA-SALLAM;2ALAYHAA*1 6 3;2TABAARAKA WA-TAAALAA;2RAHIMAHUM ALLAAH",
  "2TEH w*1 a8 2;4HAH*1 2c 3;4*2 a9 2;4*1 a8 2;4*3 87 2;2je w mm*1 32 3;7h f;2HAH w mm*1 f1 6",
  "5*1 f3 6;2SEEN*1 a 3;4*1 b6 2;5*1 f6 6;3*2 7 3;6je h f;6mm*2 11 7;2SAD w HAH*2 c 5;4*1 dd 2",
  "2SHEEN w HAH*2 5 5;4*1 4b 2;4mm*1 43 3;7h f;3*2 a 3;2DAD w*1 53 2;4KHAH*2 d 5;2TAH*1 19 3",
  "5*2 cb 3;6YEH n f;2AIN w je*1 fd 3;3*2 14 3;5*1 fe 3;2GHAIN*1 17 3;3*2 20 3;2FEH*2 d 3",
  "2QAF*1 26 3;6mm n f;2LAM w HAH*3 7 5;4je*1 ec 6;7n f;3*2 16 3;3*2 2f 3;2mm*1 37 3;5*2 17 5",
  "4*2 e5 2;4*2 e3 2;fd92:4je*1 f7 6;2HEH w mm*2 e8 3;2NOON w HAH*2 1c 5;4je*3 1f 5;3*2 3e 3",
  "2YEH*2 38 3;2BEH w*1 7c 2;2TEH w je*2 43 5;4KHAH*2 45 5;3*2 47 3;2je*1 49 3;4*1 89 2;3*1 4a 3",
  "2SEEN*1 6 3;2SAD*1 26 3;2SHEEN*1 27 3;2DAD*1 28 3;2LAM*1 41 3;3*1 51 3;2YEH*1 2b 3;3*2 3 3",
  "2mm*1 55 3;2QAF*1 56 3;2NOON*1 30 3;2QAF*1 5c 3;2LAM*1 60 3;2AIN*1 5a 3;2KAF*1 5b 3",
  "2NOON*1 59 3;2mm*1 1b 3;2LAM*1 68 3;2KAF*1 57 3;2LAM*1 45 3;2NOON w je*1 95 3;2je*1 3b 3",
  "2HAH*1 54 3;2mm*1 55 3;2FEH*1 65 3;2BEH*1 3f 3;2KAF*1 5e 3;2AIN*1 72 3;2SAD*1 60 3;2SEEN*1 28 3",
  "2NOON*1 5c 3;fdcf:2SALAAMUHU ALAYNAA;fdf0:2SALLA USED AS KORANIC so s i f;2QALA*1 1 3",
  "2ALLAH i f;2AKBAR i f;2MOHAMMAD i f;2SALAM i f;2RASOUL i f;2ALAYHE i f;2WASALLAM i f;2SALLA i f",
  "2SALLALLAHOU ALAYHE WASALLAM;2JALLAJALALOUHOU;0RIAL s;0ARABIC lg BISMILLAH AR-RAHMAN AR-RAHEEM",
  "2SUBHAANAHU WA TAAALAA;2AZZA WA JALL;0VARIATION SELECTOR-1;+f;0PRESENTATION f FOR v cm",
  "4*2 126e 0;4COLON;4SEMICOLON;4ex x;4qe x;4*1 125f 0;4r u LENTICULAR BRAKCET;4z ELLIPSIS",
  "fe20:0co lg e hl;2r hl;1d tl*2 2 2;1mc*2 4 2;1CONJOINING mc;1lg e hl p;2r hl p;1tl*2 2 2",
  "1mc*2 4 2;1CONJOINING mc p;1CYRILLIC TITLO*2 e 2;0PRESENTATION f FOR v TWO DOT LEADER;4EM DASH",
  "4EN DASH;4LOW lc;4WAVY LOW lc;4*2 c8 1;4e CURLY br;4r*1 1 5;4*2 127d 0;4*2 1283 0;4*2 128b 0",
  "4*2 128f 0;4*4 128d 0;0SESAME DOT;0u*1 1 0;0PRESENTATION f FOR v e sq br;4r sq br",
  "0DASHED OVERLINE;0CENTRELINE*1 1 1;0WAVY*1 2 1;0d*1 1 0;0DASHED LOW lc;0CENTRELINE LOW lc",
  "0*1 1b 4;0m*2 3a 4;1FULL so;fe54:1*1 39 4;1COLON;1qe x;1ex x;1EM DASH;1*6 23 4;1nu s;1AMPERSAND",
  "1as;1pl s;1HYPHEN-MINUS;1le s;1gr s;1ea s;fe68:1REVERSE SOLIDUS;1DOLLAR s;1PERCENT s",
  "1COMMERCIAL AT;fe70:0ARABIC*1 fe 4;1TATWEEL w FATHATAN b;1*1 1df 4;1TAIL FRAGMENT;1*1 1e0 4",
  "fe76:1FATHA i f;2md f;1DAMMA*2 2 2;1KASRA*2 4 2;1SHADDA*2 6 2;1SUKUN*2 8 2;1l HAMZA i f",
  "2al w MADDA*2 297 5;3*2 28d 4;2WAW*2 2 3;2al w HAMZA p*2 6 6;2YEH*1 6 3;6*3 2f1 3;2*2 26d 7",
  "2BEH*4 6 6;2TEH MARBUTA*2 12 6;3*4 c 6;2THEH*4 a 3;2je*4 e 3;2HAH*4 c 3;2KHAH*4 c 3;2DAL*2 28 6",
  "2THAL*2 2a 6;2REH*2 2c 6;2ZAIN*2 2e 6;2SEEN*4 c 3;2SHEEN*4 4 3;2SAD*4 8 3;2DAD*4 c 3;2TAH*4 c 3",
  "2ZAH*4 c 3;2AIN*4 c 3;2GHAIN*4 c 3;2FEH*4 c 3;2QAF*4 c 3;2KAF*4 c 3;2LAM*4 c 3;2mm*4 c 3",
  "2NOON*4 c 3;2HEH*4 c 3;2*2 2c9 7;2*2 2c0 9;2*4 2bf 3;1lg LAM w*4 74 2;7p*2 78 6;5*2 e 3",
  "feff:0ze WIDTH NO-BREAK SPACE;ff01:0FULLWIDTH ex x;1qu x;1nu s;1*2 93 1;1*1 9d 1;1APOSTROPHE",
  "1*2 191 1;1as;1pl s;1cm;1*1 a1 1;1FULL so;1SOLIDUS;1*a 921 1;1*2 f7 4;1le s;1ea s;1gr s;1qe x",
  "1*1 ad 1;1lb c l A;4B;4C;4D;4E;4F;4G;4H;4I;4J;4K;4L;4M;4N;4O;4P;4Q;4R;4S;4T;4U;4V;4W;4X;4Y;4Z",
  "1e sq br;1*1 cc 1;1r sq br;1cr ad;1LOW lc;1ga ad;1lb m*1a 20 3;1*1 11a 4;1v lc;1*1 11b 4;1tl",
  "1e u pa;1r u pa;0HALFWIDTH*1 13ad 0;1*2 13a4 0;1ie cm;1*1 12bb 0;2l WO;3m*5 10fc 2;4YA;4YU;4YO",
  "4TU;1*1 12c5 0;1*1 1320 0;3*2b 1106 2;3N;2*2 1356 2;1*1 1293 0;1*1e 12c7 0;ffc2:1*6 12c7 0",
  "ffca:1*6 12c7 0;ffd2:1*6 12c7 0;ffda:3EU;3YI;3I;ffe0:0FULLWIDTH CENT s;1POUND s;1NOT s;1mc",
  "1BROKEN BAR;1YEN s;1WON s;ffe8:0HALFWIDTH FORMS li v;1t a;1up a;1g a;1do a;1q sq;1u ci",
  "fff9:0INTERLINEAR ANNOTATION ANCHOR;2sp;2TERMINATOR;0OBJECT REPLACEMENT CHARACTER;0*1 1 1"]

end Dalvik.Text
