/-!
Names of the characters of ancient and of lesser used scripts. The entries are in the form that
`addNames` reads.
-/

namespace Dalvik.Text

def ancientNames : List String := [
  "10000:0LINEAR B SYLLABLE B008 A;3B038 E;3B028 I;3B061 O;3B010 U;3B001 DA;3B045 DE;3B007 DI",
  "3B014 DO;3B051 DU;3B057 JA;3B046 JE;1000d:3B036 JO;3B065 JU;3B077 KA;3B044 KE;3B067 KI;3B070 KO",
  "3B081 KU;3B080 MA;3B013 ME;3B073 MI;3B015 MO;3B023 MU;3B006 NA;3B024 NE;3B030 NI;3B052 NO",
  "3B055 NU;3B003 PA;3B072 PE;3B039 PI;3B011 PO;3B050 PU;3B016 QA;3B078 QE;3B021 QI;3B032 QO",
  "10028:3B060 RA;3B027 RE;3B053 RI;3B002 RO;3B026 RU;3B031 SA;3B009 SE;3B041 SI;3B012 SO;3B058 SU",
  "3B059 TA;3B004 TE;3B037 TI;3B005 TO;3B069 TU;3B054 WA;3B075 WE;3B040 WI;3B042 WO;1003c:3B017 ZA",
  "3B074 ZE;1003f:3B020 ZO;3B025 A2;3B043 A3;3B085 AU;3B071 DWE;3B090 DWO;3B048 NWA;3B029 PU2",
  "3B062 PTE;3B076 RA2;3B033 RA3;3B068 RO2;3B066 TA2;3B087 TWE;3B091 TWO;10050:2y B018;+1;3B022",
  "3B034;3B047;3B049;3B056;3B063;+1;3B079;3B082;+1;3B086;3B089;10080:2IDEOGRAM B100 MAN",
  "3B102 WOMAN;3B104 DEER;3B105 EQUID;3B105F MARE;3B105M STALLION;3B106F EWE;3B106M RAM",
  "3B107F SHE-GOAT;3B107M HE-GOAT;3B108F SOW;3B108M BOAR;3B109F COW;3B109M BULL;3B120 WHEAT",
  "3B121 BARLEY;3B122 OLIVE;3B123 SPICE;3B125 CYPERUS;2MONOGRAM B127 KAPO;3B128 KANAKO",
  "2IDEOGRAM B130 OIL;3B131 WINE;3B132;2MONOGRAM B133 AREPA;3B135 MERI;2IDEOGRAM B140 BRONZE",
  "3B141 GOLD;3B142;3B145 WOOL;3B146;3B150;3B151 HORN;3B152;+2;2MONOGRAM B156 TURO2;2IDEOGRAM B157",
  "+1;3B159 CLOTH;3B160;+1;3B162 GARMENT;3B163 ARMOUR;3B164;+8;3B173 MONTH;3B174;3B176 TREE;3B177",
  "+8;3B189;+1;3B191 HELMET;3B220 FOOTSTOOL;3B225 BATHTUB;3B230 SPEAR;3B231 a;3B232;3B233 SWORD",
  "3B234;3B236;3B240 WHEELED CHARIOT;3B241*1 1 5;3B242 CHARIOT FRAME;3B243 WHEEL;3B245;+1",
  "2MONOGRAM B247 DIPTE;2IDEOGRAM B248;+1;3B251;+2;3B254 DART;3B255;+4;3VESSEL B155;4B200;+13",
  "4B221;+1;4B226;+3;4B250;4B305;10100:0AEGEAN WORD sp lc;3DOT;1CHECK x;10107:1nu ONE;2TWO;2j;2fo",
  "2fi;2SIX;2se;2ei;2ni;2TEN;2tw;2THIRTY;2FORTY;2FIFTY;2SIXTY;2sv;2EIGHTY;2nn;2ONE hu;2TWO hu",
  "2j hu;2fo hu;2fi hu;2SIX hu;2se hu;2ei hu;2ni hu;2ONE th;2TWO th;2j th;2fo th;2fi th;2SIX th",
  "2se th;2ei th;2ni th;2TEN th;2tw th;2THIRTY th;2FORTY th;2FIFTY th;2SIXTY th;2sv th;2EIGHTY th",
  "2nn th;10137:1WEIGHT BASE UNIT;2FIRST SUBUNIT;2SECOND*1 1 3;2THIRD*1 2 3;2FOURTH*1 3 3",
  "1DRY MEASURE*1 4 2;1LIQUID*1 1 2;1MEASURE*2 5 2;0GREEK ACROPHONIC ATTIC ONE qa;4hl;4DRACHMA;3fi",
  "3FIFTY;3fi hu;4th;3FIFTY th;3fi TALENTS;3TEN*1 1 4;3FIFTY*1 2 4;3ONE hu*1 3 4;3fi*1 1 4",
  "3ONE th*1 5 4;3fi*1 1 4;4STATERS;3TEN*1 1 4;3FIFTY*1 2 4;3ONE hu*1 3 4;3fi*1 1 4;3ONE th*1 5 4",
  "3TEN*1 1 4;3FIFTY*1 2 4;3TEN MNAS;2HERAEUM ONE PLETHRON;2THESPIAN ONE;2HERMIONIAN ONE",
  "2EPIDAUREAN TWO;2THESPIAN TWO;2CYRENAIC TWO DRACHMAS;2EPIDAUREAN*1 1 3;2TROEZENIAN fi;3TEN",
  "4aa f;2HERMIONIAN TEN;2MESSENIAN TEN;2THESPIAN TEN;3THIRTY;2TROEZENIAN FIFTY;4aa f",
  "2HERMIONIAN FIFTY;2THESPIAN FIFTY;3ONE hu;3j hu;2EPIDAUREAN fi hu;2TROEZENIAN fi hu",
  "2THESPIAN fi hu;2CARYSTIAN fi hu;2NAXIAN fi hu;2THESPIAN ONE th;3fi th;2DELPHIC fi MNAS",
  "2STRATIAN FIFTY MNAS;1ONE hl s;4aa f;1TWO THIRDS s;1j QUARTERS s;1YEAR s;1TALENT s;1DRACHMA s",
  "1OBOL s;1TWO OBOLS s;1j*1 1 2;1fo*1 2 2;1fi*1 3 2;1METRETES s;1KYATHOS BASE s;1LITRA s",
  "1OUNKIA s;1XESTES s;1ARTABE s;1AROURA s;1GRAMMA s;1TRYBLION BASE s;1ze s;1ONE qa s;1SINUSOID s",
  "1INDICTION s;0NOMISMA s;10190:0ROMAN SEXTANS s;1UNCIA s;1SEMUNCIA s;1SEXTULA s;1DIMIDIA*1 1 1",
  "1SILIQUA s;1DENARIUS s;1QUINARIUS s;1SESTERTIUS s;1DUPONDIUS s;1AS s;1CENTURIAL s;0ASCIA y",
  "101a0:0GREEK y TAU RHO;101d0:0PHAISTOS DISC s PEDESTRIAN;3PLUMED HEAD;3TATTOOED HEAD;3CAPTIVE",
  "3CHILD;3WOMAN;3HELMET;3GAUNTLET;3TIARA;3a;3BOW;3SHIELD;3CLUB;3MANACLES;3MATTOCK;3SAW;3LID",
  "3BOOMERANG;3CARPENTRY PLANE;3DOLIUM;3COMB;3SLING;3COLUMN;3BEEHIVE;3SHIP;3HORN;3HIDE;3BULLS LEG",
  "3CAT;3RAM;3EAGLE;3DOVE;3TUNNY;3BEE;3PLANE TREE;3VINE;3PAPYRUS;3ROSETTE;3LILY;3OX BACK;3FLUTE",
  "3GRATER;3STRAINER;3m AXE;3WAVY BAND;3co OBLIQUE st;10280:0LYCIAN l A;2E;2B;2BH;2G;2D;2I;2W;2Z",
  "2TH;2J;2K;2Q;2L;2M;2N;2MM;2NN;2U;2P;2KK;2R;2S;2T;2TT;2AN;2EN;2H;2X;102a0:0CARIAN l A;2P2;2D;2L",
  "2UUU;2R;2LD;2A2;2Q;2B;2M;2O;2D2;2T;2SH;2SH2;2S;2C-18;2U;2NN;2X;2N;2TT2;2P;2SS;2I;2E;2UUUU;2K",
  "2K2;2ND;2UU;2G;2G2;2ST;2ST2;2NG;2II;2C-39;2TT;2UUU2;2RR;2MB;2MB2;+2;2LD2;2E2;2UUU3",
  "102e0:0COPTIC EPACT THOUSANDS x;2dg*9 110 2;2*12 110 1;10300:0OLD ITALIC l A;3BE;3KE;3DE;3E;3VE",
  "3ZE;3HE;3THE;3I;3KA;3EL;3EM;3EN;3ESH;3O;3PE;3SHE;3KU;3ER;3ES;3TE;3U;3EKS;3PHE;3KHE;3EF;3ERS",
  "3CHE;3II;3UU;3ESS;2NUMERAL ONE;3fi;3TEN;3FIFTY;1032d:2l YE;3NORTHERN TSE;3SOUTHERN TSE",
  "0GOTHIC l AHSA;2BAIRKAN;2GIBA;2DAGS;2AIHVUS;2QAIRTHRA;2IUJA;2HAGL;2THIUTH;2EIS;2KUSMA;2LAGUS",
  "2MANNA;2NAUTHS;2JER;2URUS;2PAIRTHRA;2nn;2RAIDA;2SAUIL;2TEIWS;2WINJA;2FAIHU;2IGGWS;2HWAIR;2OTHAL",
  "2ni hu;10350:0OLD PERMIC l AN;3BUR;3GAI;3DOI;3E;3ZHOI;3DZHOI;3ZATA;3DZITA;3I;3KOKE;3LEI;3MENOE",
  "3NENOE;3VOOI;3PEEI;3REI;3SII;3TAI;3U;3CHERY;3SHOOI;3SHCHOOI;3YRY;3YERU;3O;3OO;3EF;3HA;3TSIU",
  "3VER;3YER;3YERI;3YAT;3IE;3YU;3YA;3IA;0co*1 26 0;4DOI;4ZATA;4NENOE;4SII;10380:0UGARITIC l ALPA",
  "2BETA;2GAMLA;2KHA;2DELTA;2HO;2WO;2ZETA;2HOTA;2TET;2YOD;2KAF;2SHIN;2LAMDA;2MEM;2DHAL;2NUN;2ZU",
  "2SAMKA;2AIN;2PU;2SADE;2QOPA;2RASHA;2THANNA;2GHAIN;2TO;2I;2U;2SSU;1039f:1WORD DIVIDER",
  "0OLD PERSIAN s A;3I;3U;3KA;3KU;3GA;3GU;3XA;3CA;3JA;3JI;3TA;3TU;3DA;3DI;3DU;3THA;3PA;3BA;3FA;3NA",
  "3NU;3MA;3MI;3MU;3YA;3VA;3VI;3RA;3RU;3LA;3SA;3ZA;3SHA;3SSA;3HA;103c8:3AURAMAZDAA;3AURAMAZDAA-2",
  "3AURAMAZDAAHA;3XSHAAYATHIYA;3DAHYAAUSH;3DAHYAAUSH-2;3BAGA;3BUUMISH;2*1 2d 1;2*2 1e4 1;3TEN;3tw",
  "3hu;10400:0DESERET c l ln I;4E;4A;4AH;4O;4OO;3sh*6 6 4;3AY;3OW;3WU;3YEE;3H;3PEE;3BEE;3TEE;3DEE",
  "3CHEE;3JEE;3KAY;3GAY;3EF;3VEE;3ETH;3THEE;3ES;3ZEE;3ESH;3ZHEE;3ER;2*3 d5 2;3ENG;3OI;3EW",
  "1m*28 28 2;0SHAVIAN l PEEP;2TOT;2KICK;2FEE;2THIGH;2SO;2SURE;2CHURCH;2YEA;2HUNG;2BIB;2DEAD;2GAG",
  "2VOW;2THEY;2ZOO;2MEASURE;2JUDGE;2WOE;2HA-HA;2LOLL;2MIME;2IF;2EGG;2ASH;2ADO;2ON;2WOOL;2OUT;2AH",
  "2ROAR;2NUN;2EAT;2AGE;2ICE;2UP;2OAK;2OOZE;2OIL;2AWE;2ARE;2OR;2AIR;2ERR;2ARRAY;2EAR;2IAN;2YEW",
  "0OSMANYA l al;2BA;2TA;2JA;2XA;2KHA;2DEEL;2RA;2SA;2SHIIN;2DHA;2CAYN;2GA;2FA;2QAAF;2KAAF;2LAAN",
  "2MIIN;2NUUN;2WAW;2HA;2YA;2A;2E;2I;2O;2U;2AA;2EE;2OO;104a0:1dg ze;2*9 288 2;104b0:0OSAGE c l A",
  "3AI;3AIN;3AH;3BRA;3CHA;3EHCHA;3E;3EIN;3HA;3HYA;3I;3KA;3EHKA;3KYA;3LA;3MA;3NA;3O;3OIN;3PA;3EHPA",
  "3SA;3SHA;3TA;3EHTA;3TSA;3EHTSA;3TSHA;3DHA;3U;3WA;3KHA;3GHA;3ZA;3ZHA;104d8:1m*24 24 2",
  "10500:0ELBASAN l A;2BE;2CE;2CHE;2DE;2NDE;2DHE;2EI;2E;2FE;2GE;2GJE;2HE;2I;2JE;2KE;2LE;2LLE;2ME",
  "2NE;2NA;2NJE;2O;2PE;2QE;2RE;2RRE;2SE;2SHE;2TE;2THE;2U;2VE;2XE;2Y;2ZE;2ZHE;2GHE;2GHAMMA;2KHE",
  "10530:0CAUCASIAN ALBANIAN l ALT;3BET;3GIM;3DAT;3EB;3ZARL;3EYN;3ZHIL;3TAS;3CHA;3YOWD;3ZHA;3IRB",
  "3SHA;3LAN;3INYA;3XEYN;3DYAN;3CAR;3JHOX;3KAR;3LYIT;3HEYT;3QAY;3AOR;3CHOY;3CHI;3CYAY;3MAQ;3QAR",
  "3NOWC;3DZYAY;3SHAK;3JAYN;3ON;3TYAY;3FAM;3DZAY;3CHAT;3PEN;3GHEYS;3RAT;3SEYK;3VEYZ;3TIWR;3SHOY",
  "3IWN;3CYAW;3CAYN;3YAYD;3PIWR;3KIW;1056f:2CITATION x;0VITHKUQI c l A;3BBE;2*4 5e 1;2*4 5d 1;3GA",
  "1057c:3HA;3HHA;3I;3IJE;3JE;3KA;3LA;3LLA;3ME;3NE;2*3 5d 1;3QA;3RE;1058c:2*7 5c 1;10594:3Y;3ZE",
  "10597:1m*b 23 2;105a3:2*f 23 2;105b3:2*7 7f 1;105bb:3Y;3ZE;10600:0LINEAR A s AB001;+a;3AB013",
  "3AB016;+1;3AB020;+1;3AB021F;3AB021M;3AB022;3AB022F;3AB022M;3AB023;3AB023M;3AB024;3AB026;+2",
  "3A028B;3AB029;+2;3AB034;3AB037;+4;3AB044;+7;3AB053;+8;3AB065;+2;3AB069;+1;3AB073;+1;3AB076;+6",
  "3AB085;+2;3A100-102;3AB118;3AB120;3A120B;3AB122;+1;3AB131A;3AB131B;3A131C;3AB164;3AB171;3AB180",
  "3AB188;3AB191;3A301;+7;3A309A;3A309B;3A309C;3A310;+2;3A313A;3A313B;3A313C;3A314;+39;3A400-VAS",
  "3A401-VAS;3A402-VAS;3A403-VAS;3A404-VAS;3A405-VAS;3A406-VAS;3A407-VAS;3A408-VAS;3A409-VAS",
  "3A410-VAS;3A411-VAS;3A412-VAS;3A413-VAS;3A414-VAS;3A415-VAS;3A416-VAS;3A417-VAS;3A418-VAS;3A501",
  "+5;3A508;+5;3A515;+1;3A520;+1;3A523;+9;3A534;+8;3A545;3A547;+a;3A559;3A563;+3;3A568;+15;3A591",
  "+1;3A594;+2;3A598;3A600;+4;3A606;3A608;+10;3A626;+3;3A634;3A637;+1;3A640;3A642;+4;3A648;+1",
  "3A651;+d;10740:3A701 A;3A702 B;3A703 D;3A704 E;3A705 F;3A706 H;3A707 J;3A708 K;3A709 L",
  "3A709-2 L2;3A709-3 L3;3A709-4 L4;3A709-6 L6;3A710 W;3A711 X;3A712 Y;3A713 OMEGA;3A714 ABB",
  "3A715 BB;3A717 DD;3A726 EYYY;3A732 JE;10760:3A800;+7;10780:0mf l m c AA;2SUPERSCRIPT ta COLON",
  "3hl*1 1 3;2m AE;3c B;3B w ho;10787:3DZ dr;5w rt ho;6CURL;3DEZH dr;3D w TAIL;5ho;6k TAIL;3re E",
  "3cl re oe E;3FENG dr;3RAMS HORN;3c G;3G w ho;3c G w ho;3H w st;3c H;3HENG w ho",
  "3DOTLESS J w st k ho;3LS dr;3LZ dr;3L w BELT;3c*1 1 3;3L w rt ho k BELT;3LEZH;4w rt ho;3tu Y",
  "5w BELT;3O w st;3c OE;3cl OMEGA;3Q;3tu R w ln LEG;8k rt ho;3R w TAIL;5FISHHOOK;3c R;3TC*1 22 4",
  "3TS*2 25 4;3TESH dr;3T*1 2 5;3V w r ho;107b2:3c Y;2GLOTTAL so w st;2re*1 1 2;2BILABIAL CLICK",
  "2DENTAL CLICK;2LATERAL CLICK;2ALVEOLAR CLICK;2rt CLICK*1 b 5;2m S w CURL",
  "10800:0CYPRIOT SYLLABLE*5 28b 2;2JA;10808:2JO;1080a:2KA;2KE;2KI;2KO;2KU;2LA;2LE;2LI;2LO;2LU;2MA",
  "2ME;2MI;2MO;2MU;2NA;2NE;2NI;2NO;2NU;2PA;2PE;2PI;2PO;2PU;2RA;2RE;2RI;2RO;2RU;2SA;2SE;2SI;2SO;2SU",
  "2TA;2TE;2TI;2TO;2TU;2WA;2WE;2WI;2WO;10837:2XA;2XE;1083c:2ZA;1083f:2ZO;0IMPERIAL ARAMAIC l ALEPH",
  "3BETH;3GIMEL;3DALETH;3HE;3WAW;3ZAYIN;3HETH;3TETH;3YODH;3KAPH;3LAMEDH;3MEM;3NUN;3SAMEKH;3AYIN",
  "3PE;3SADHE;3QOPH;3RESH;3SHIN;3TAW;10857:2SECTION s;2*3 558 1;3TEN;3tw;3ONE hu;4th;3TEN th",
  "0PALMYRENE*d 1f 2;2n NUN;1*9 20 2;1lf FLEURON;1ri*1 1 2;1*5 579 1;2TEN;2tw;0NABATAEAN l n ALEPH",
  "2ALEPH;2n BETH;1*3 41 2;2n HE;1*5 42 2;2n YODH;2YODH;2n KAPH;2KAPH;2n LAMEDH;2LAMEDH;2n MEM",
  "1*9 27 1;2n SHIN;1*2 48 2;108a7:1*4 59f 1;1CRUCIFORM nu fo;1nu fi;1*3 4a 2;108e0:0HATRAN*3 67 2",
  "2DALETH-RESH;2HE;2WAW;2ZAYN;1*8 67 2;2AYN;1*3 67 2;108f4:1*2 66 2;108fb:1nu ONE;1*4 1a 1",
  "0PHOENICIAN l ALF;2BET;2GAML;2DELT;2HE;2WAU;2ZAI;2HET;1*3 429 1;2LAMD;2MEM;2NUN;2SEMK;2AIN;2PE",
  "2SADE;2QOF;2ROSH;2SHIN;2TAU;1nu ONE;1*3 7e 2;2TWO;2j;1091f:1WORD sp;0LYDIAN l A;2B;2G;2D;2E;2V",
  "2I;2Y;2K;2L;2M;2N;2O;2R;2SS;2T;2U;2F;2Q;2S;1*3 51a 1;2LY;2NN;2C;1093f:1ta x",
  "10980:0MEROITIC HIEROGLYPHIC*4 37b 1;3YA;3WA;3BA;3BA-2;3PA;3MA;3NA;3NA-2;3NE;3NE-2;3RA;3RA-2",
  "3LA;3KHA;3HHA;3SA;3SA-2;3SE;3KA;3QA;3TA;3TA-2;3TE;3TE-2;3TO;3DA;2y VIDJ;3VIDJ-2;1CURSIVE*7 20 2",
  "2*3 1f 2;3NE;3RA;2*4 1c 2;3ARCHAIC SA;2*4 1c 2;3TE;3TO;3DA;109bc:2FRACTION ELEVEN TWELFTHS",
  "3ONE hl;2LOGOGRAM RMT;3IMN;2*10 636 1;109d2:2*1b 634 1;3ONE hu th;3TWO hu th;3j hu th;3fo hu th",
  "3fi hu th;3SIX hu th;3se hu th;3ei hu th;3ni hu th;2FRACTION ONE TWELFTH;3TWO*1 39 4;3j*1 3a 4",
  "3fo*1 3b 4;3fi*1 3c 4;3SIX*1 3d 4;3se*1 3e 4;3ei*1 3f 4;3ni*1 40 4;3TEN*1 41 4;0KHAROSHTHI l A",
  "1vo s I;3U;3vc R;10a05:3E;3O;10a0c:2LENGTH x;1s d rn p;2an;2vi;1l KA;2KHA;2GA;2GHA;10a15:2CA",
  "2CHA;2JA;10a19:2NYA;2TTA;2TTHA;2DDA;2DDHA;2NNA;2TA;2THA;2DA;2DHA;2NA;2PA;2PHA;2BA;2BHA;2MA;2YA",
  "2RA;2LA;2VA;2SHA;2SSA;2SA;2ZA;2HA;2KKA;2TTTHA;2TTTA;2VHA;10a38:1s BAR b;2CAUDA;2DOT p;10a3f:1vr",
  "1*4 596 2;1*4 14f 2;1*1 7b 2;10a50:1pu DOT;2m ci;2ci;2CRESCENT BAR;2MANGALAM;2LOTUS;2DANDA",
  "2d DANDA;2LINES;10a60:0OLD sb ARABIAN l HE;4LAMEDH;4HETH;4MEM;4QOPH;4WAW;4SHIN;4RESH;4BETH;4TAW",
  "4SAT;4KAPH;4NUN;4KHETH;4SADHE;4SAMEKH;4FE;4al;4AYN;4DHADHE;3*2 189 2;4GHAYN;4TETH;4ZAYN",
  "4DHALETH;4YODH;4THAW;4THETH;3nu ONE;4FIFTY;3NUMERIC INDICATOR;1no ARABIAN l HEH;4LAM;4HAH;4mm",
  "4QAF;4WAW;4ES-2;4REH;4BEH;4TEH;4ES-1;4KAF;4NOON;4KHAH;4SAD;4ES-3;4FEH;4al;4AIN;4DAD;4GEEM;4DAL",
  "4GHAIN;4TAH;4ZAIN;4THAL;4YEH;4THEH;4ZAH;3*3 11d 1;10ac0:0MANICHAEAN*2 1b7 2;2BHETH;2GIMEL",
  "2GHIMEL;1*3 1b9 2;1s UD;1l ZAYIN;2ZHAYIN;2JAYIN;2JHAYIN;1*4 1bd 2;2XAPH;2KHAPH;2LAMEDH;2DHAMEDH",
  "2THAMEDH;1*4 1c1 2;2AAYIN;2PE;2FE;1*2 1c3 2;2XOPH;2QHOPH;1*2 1c5 2;2SSHIN;2TAW;1ab x b;3p",
  "10aeb:1*5 162 1;1pu STAR;2FLEURON;2d DOT WITHIN DOT;2*1 1 3;2DOT;2TWO dt;2lc FILLER",
  "10b00:0AVESTAN l A;2AA;2AO;2AAO;2AN;2AAN;2AE;2AEE;2E;2EE;2O;2OO;2I;2II;2U;2UU;2KE;2XE;2XYE;2XVE",
  "2GE;2GGE;2GHE;2CE;2JE;2TE;2THE;2DE;2DHE;2TTE;2PE;2FE;2BE;2BHE;2NGE;2NGYE;2NGVE;2NE;2NYE;2NNE",
  "2ME;2HME;2YYE;2YE;2VE;2RE;2LE;2SE;2ZE;2SHE;2ZHE;2SHYE;2SSHE;2HE;10b39:1ab x",
  "0TINY TWO dt ov ONE DOT pu;0m*1 1 1;0la*1 2 1;1ONE DOT ov TWO dt pu;1TWO RINGS ov ONE rn pu",
  "1ONE rn ov TWO RINGS pu;0INSCRIPTIONAL PARTHIAN*16 227 2;10b58:2*4 77e 1;2*4 227 2",
  "1PAHLAVI*5 245 2;3WAW-AYIN-RESH;2*6 245 2;3MEM-QOPH;2*2 245 2;2*2 1d 2;2*2 1b 2;10b78:2*8 1b 2",
  "0PSALTER*8 1b 1;1*a 1a 1;10b99:2SECTION x;2tu*1 1 2;2fo dt w cb;5DOT;10ba9:2*7 39 2",
  "10c00:0OLD TURKIC l ORKHON A;3ye A;4AE;3ORKHON I;3ye I;4E;3ORKHON O;4OE;3ye OE;3ORKHON AB",
  "3ye AB;3ORKHON AEB;3ye AEB;3ORKHON AG;3ye AG;3ORKHON AEG;3ye AEG;3ORKHON AD;3ye AD;3ORKHON AED",
  "4EZ;3ye EZ;3ORKHON AY;3ye AY;3ORKHON AEY;3ye AEY;3ORKHON AEK;3ye AEK;3ORKHON OEK;3ye OEK",
  "3ORKHON AL;3ye AL;3ORKHON AEL;4ELT;4EM;4AN;4AEN;3ye AEN;3ORKHON ENT;3ye ENT;3ORKHON ENC;3ye ENC",
  "3ORKHON ENY;3ye ENY;4ANG;3ORKHON ENG;3ye AENG;3ORKHON EP;4OP;4IC;4EC;3ye EC;3ORKHON AQ;3ye AQ",
  "3ORKHON IQ;3ye IQ;3ORKHON OQ;3ye OQ;3ORKHON AR;3ye AR;3ORKHON AER;4AS;4AES;4ASH;3ye ASH",
  "3ORKHON ESH;3ye ESH;3ORKHON AT;3ye AT;3ORKHON AET;3ye AET;3ORKHON OT;4BASH",
  "10c80:1HUNGARIAN c l A;4AA;4EB;4AMB;4EC;4ENC;4ECS;4ED;4k;4E;4CLOSE E;4EE;4EF;4EG;4EGY;4EH;4I",
  "4II;4EJ;4EK;4AK;4UNK;4EL;4ELY;4EM;4EN;4ENY;4O;4OO;4NIKOLSBURG OE;4RUDIMENTA OE;4OEE;4EP;4EMP",
  "4ER;4sh ER;4ES;4ESZ;4ET;4ENT;4ETY;4ECH;4U;4UU;4NIKOLSBURG UE;4RUDIMENTA UE;4EV;4EZ;4EZS",
  "4ENT-SHAPED s;4US;10cc0:2m*33 33 3;10cfa:2nu*4 722 3;2*2 314 2;0HANIFI ROHINGYA l A;3BA;3PA;3TA",
  "3TTA;3JA;3CA;3HA;3KHA;3FA;3DA;3DDA;3RA;3RRA;3ZA;3SA;3SHA;3KA;3GA;2*3 5e6 2;3WA;3KINNA WA;3YA",
  "3KINNA YA;3NGA;3NYA;3VA;2vo A;3I;3U;3E;3O;2x SAKIN;3NA KHONNA;2s HARBAHAY;3TAHALA;3TANA;3TASSI",
  "10d30:2*a 614 1;10e60:0RUMI*1b 795 2;1*1 28d 2;3qa;3THIRD;2TWO THIRDS;10e80:0YEZIDI l ELIF;2BE",
  "2PE;2PHE;2THE;2SE;2CIM;2CHIM;2CHHIM;2HHA;2XA;2DAL;2ZAL;2RA;2RHA;2ZA;2JA;2SIN;2SHIN;2SAD;2DAD",
  "2TA;2ZE;2EYN;2XHEYN;2FA;2VA;3aa f;2QAF;2KAF;2KHAF;2GAF;2LAM;2MIM;2NUN;2UM;2WAW;2OW;2EW;2HAY",
  "2YOT;2ET;10eab:1co HAMZA x;2MADDA x;1HYPHENATION x;10eb0:1l LAM w DOT b;2YOT w cr b",
  "10f00:0OLD SOGDIAN l ALEPH;3n ALEPH;3BETH;3n BETH;3GIMEL;3HE;3n HE;2*3 3b4 2;2*5 3b3 2;3n NUN",
  "5w v TAIL;2*2 3b5 2;3aa AYIN;3PE;3SADHE;3n SADHE;5*1 7 5;3RESH-AYIN-DALETH;3SHIN;3TAW;3n TAW",
  "5*1 c 5;2*7 397 1;3THIRTY;3ONE hu;2*1 2e6 2;2lg AYIN-DALETH;10f30:0SOGDIAN*3 3da 2;1*4 3d9 2",
  "1*9 3d8 2;2RESH-AYIN;0*2 20 1;2FETH;2LESH;1INDEPENDENT SHIN;1co DOT p;2TWO dt p;2DOT b",
  "2TWO dt b;2CURVE b;3p;2ho b;3p;2ln ho p;2RESH p;2st p;1*4 364 1;1pu TWO v BARS;5w dt;2ci w DOT",
  "2TWO CIRCLES w dt;2hl*1 2 2;10f70:0OLD UYGHUR*2 404 2;3GIMEL-HETH;2*2 402 2;3n HETH;2*6 29 1",
  "2*2 4a 2;2*3 3ff 2;3LESH;2co DOT b;4p;3TWO dt b;5p;2pu BAR;3TWO BARS;4dt;3fo dt",
  "10fb0:0CHORASMIAN l ALEPH;2m ALEPH;1*5 41f 2;2CURLED WAW;1*a 47 1;1*a 1f6 2",
  "10fe0:0ELYMAIC*16 43a 2;1lg ZAYIN-YODH;11000:0BRAHMI s ca;2an;2vi;2JIHVAMULIYA;2UPADHMANIYA",
  "1l A;2AA;1*4 262 1;2vc R;3RR;3L;3LL;2E;2AI;2O;2AU;1*4 327 1;2NGA;1*3 328 1;2JHA;1*17 329 1;2HA",
  "2LLA;2OLD TAMIL LLLA;4RRA;4NNNA;1vo s AA;3BHATTIPROLU AA;3*c 33 2;1vr;1*2 324 2;1pu DOT;2d DOT",
  "2lc;1*1 32c 1;2LOTUS;11052:1*13 9e0 1;3th;1*a 76d 1;1s OLD TAMIL vr;1l OLD TAMIL sh E;5O",
  "1vo s*2 2 2;1l OLD TAMIL LLA;1107f:1nu JOINER;0KAITHI*3 73 1;1*6 71 1;1*11 6d 1;2DDDHA;2DDHA",
  "2RHA;1*13 6f 1;1vo s*9 2c 2;1s vr;2NUKTA;1ab s;1ENUMERATION s;1nu s;1SECTION x;1d*1 1 1",
  "1*2 390 2;1*1 77 1;110cd:1nu s b;110d0:0SORA SOMPENG l SAH;3TAH;3BAH;3CAH;3DAH;3GAH;3MAH;3NGAH",
  "3LAH;3NAH;3VAH;3PAH;3YAH;3RAH;3HAH;3KAH;3JAH;3NYAH;3AH;3EEH;3IH;3UH;3OH;3EH;3MAE",
  "110f0:2*a 7db 1;11100:0CHAKMA*3 da 1;1l AA;2I;2U;2E;2KAA;2KHAA;2GAA;2GHAA;2NGAA;2CAA;2CHAA;2JAA",
  "2JHAA;2NYAA;2TTAA;2TTHAA;2DDAA;2DDHAA;2NNAA;2TAA;2THAA;2DAA;2DHAA;2NAA;2PAA;2PHAA;2BAA;2BHAA",
  "2MAA;2YYAA;2YAA;2RAA;2LAA;2WAA;2SAA;2HAA;1vo s A;3*8 8a 2;3OI;1O x;1AU x;1vr;1MAAYYAA",
  "11136:1*a 81a 1;1*1 68 1;1*2 3f7 2;1qe x;1l LHAA;1vo s AA;3EI;1l VAA;11150:0MAHAJANI l*5 223 3",
  "1*4 43a 1;1*14 112 1;1*3 43a 1;2SA;2HA;2RRA;1*2 97 1;1*1 95 1;1lg SHRI;11180:0SHARADA*3 148 1",
  "1*2a 146 1;2LLA;1*8 d8 1;3*a 175 2;1s vr;2AVAGRAHA;1*2 187 1;1OM;1*2 46a 2;1ab s;1sp;1SANDHI x",
  "1s NUKTA;1vo mf x;1EXTRA sh vo x;1SUTRA x;1vo s PRISHTHAMATRA E;1s in ca;1*a 8a3 1;1EKAM",
  "1s SIDDHAM;1HEADSTROKE;1CONTINUATION s;1SECTION MARK-1;+1;111e1:0SINHALA ARCHAIC*13 a2a 2;4th",
  "11200:0KHOJKI*3 1b7 1;2U;1*7 1b1 1;2GGA;1*5 1b2 1;2JJA;11213:1*9 4db 1;2DDDA;1*5 4dc 1;2BBA",
  "1*6 4dd 1;1*3 1b2 1;1*3 144 1;3*5 2b 2;1s an;2vr;2NUKTA;2SHADDA;1*2 4d0 2;1WORD sp;1*2 145 1",
  "1ab s;1s SUKUN;11280:0MULTANI*4 d9 1;1*3 512 1;11288:2GHA;1128a:1*4 38 1;1128f:1*4 513 1;2DDDA",
  "1*a 514 1;1129f:1*8 37 1;2RRA;2RHA;1*1 d9 1;112b0:0KHUDAWADI*6 21b 1;1*e 66 1;2JHA;1*5 2f 1",
  "2RRA;1*8 544 1;1*9 68 1;2SHA;2SA;2HA;1s an;1*9 1ad 1;1s NUKTA;2vr;112f0:1*a 966 1",
  "11300:0GRANTHA s co an b;1*3 266 1;11305:1*7 264 1;3L;1130f:2EE;2AI;11313:2OO;1*15 262 1",
  "1132a:1*7 58b 1;11332:2LA;2LLA;11335:1*5 263 1;1133b:0co BINDU p;0GRANTHA s NUKTA;2AVAGRAHA",
  "1*7 11f 1;11347:3EE;3AI;1134b:3OO;3AU;1s vr;11350:1OM;11357:1AU LENGTH x;1135d:1s PLUTA",
  "1l VEDIC an;3d an;2vc RR;3LL;1*2 26d 1;11366:0co GRANTHA*7 9ba 1;11370:2l A;3KA;3NA;3VI;3PA",
  "11400:0NEWA*13 2b6 1;2NGHA;1*5 2b7 1;2NYHA;1*a 5e1 1;2NHA;1*5 5e2 1;2MHA;2YA;2RA;2RHA;2LA;2LHA",
  "2WA;1*12 175 1;1*3 2fe 1;1*2 69 1;2n an;1OM;1SIDDHI;1*2 5e3 2;1cm;1GAP FILLER;1ab s;1*a a16 1",
  "1d cm;1PLACEHOLDER x;1145d:1INSERTION s;1SANDHI x;1*1 70 1;1*2 317 1;11480:0TIRHUTA ANJI",
  "1*2c 318 1;1*d 1d1 1;3sh E;3AI;3O;3sh O;3AU;1*3 35b 1;2vr;1*2 c7 1;1GVANG;1ab s;1OM",
  "114d0:1*a a6f 1;11580:0SIDDHAM*36 51 1;115b8:3E;3AI;3O;1*6 4d 1;2SIDDHAM;1*2 68b 2;1sp DOT;2BAR",
  "1REPETITION MARK-1;+2;1END OF TEXT x;1SECTION x w TRIDENT k U-SHAPED ORNAMENTS;6dd CRESCENTS",
  "4RAYS*1 1 5;7d*1 2 7;7tp*1 3 7;3d rn;5w RAYS;3w*2 4 7;4QUADRUPLE*1 8 7;4SEPTUPLE*1 9 7",
  "4CIRCLES k RAYS;6TWO ENCLOSURES;6fo*1 1 7;1l THREE-CIRCLE aa I;2TWO-CIRCLE aa I;4II;2aa U",
  "1vo s aa U;4UU;11600:0MODI*30 3c5 1;1*d 27f 1;1*3 ab 1;2ARDHACANDRA;1*3 27e 1;1s HUVA",
  "11650:1*a b1a 1;11660:0MONGOLIAN BIRGA w or;1ro BIRGA;1d*1 2 1;1tp*1 3 1;1BIRGA w d or",
  "1ro*1 5 1;4d or;1in BIRGA;3w d or;1SWIRL BIRGA;2*2 5 2;1tu*1 1 1;11680:0TAKRI*6 421 1",
  "1*22 41d 1;1*3 30d 1;1s an;2vi;1*b 3b0 1;1l ARCHAIC KHA;1ab s;116c0:1*a b6b 1",
  "11700:0AHOM*2 77e 1;2NGA;2NA;2TA;2aa TA;1*3 772 1;2MA;2JA;2CHA;2THA;2RA;2LA;2SA;2NYA;2HA;2A;2DA",
  "2DHA;2GA;2aa GA;2GHA;2BHA;2JHA;2aa BA;1171d:1cn s md LA;4RA;4LIGATING RA;1vo s*7 412 2;3AW;3O",
  "3AI;3AM;1s KILLER;11730:1dg ze;1*b d17 2;1s m SECTION;2SECTION;2RULAI;1y VI;1l CA;1*5 7b1 1",
  "2LLA;11800:0DOGRA*6 4a6 1;1*25 4a2 1;2RRA;1*b 13a 1;1*4 186 1;1ab s;118a0:0WARANG CITI c l NGAA",
  "4A;4WI;4YU;4YA;4YO;4II;4UU;4E;4O;4ANG;4GA;4KO;4ENY;4YUJ;4UC;4ENN;4ODD;4TTE;4NUNG;4DA;4AT;4AM",
  "4BU;4PU;4HIYO;4HOLO;4HORR;4HAR;4SSUU;4SII;4VIYO;2m*20 20 3;2dg ze;2*12 daa 2;118ff:2OM",
  "0DIVES AKURU*7 4c5 1;11909:3O;1190c:2*8 530 1;11915:3NYA;3TTA;11918:2*e 857 1;3YYA;2*8 52f 1",
  "3ZA;2*6 4c2 1;11937:4AI;4O;1193b:2s an;3ca;3HALANTA;2vr;2PREFIXED NASAL s;2md YA;2h RA;2md RA",
  "2s NUKTA;2d DANDA;2*1 26e 1;2*1 1c3 1;11950:2*a c84 1;119a0:0NANDINAGARI*8 57e 1",
  "119aa:1*26 57c 1;1*8 db 1;119da:1*6 1b6 1;1*2 437 1;1*2 41e 1;1*1 42d 1",
  "11a00:0ZANABAZAR sq*2 8e2 1;4UE;4U;4E;4OE;4O;4AI;4AU;4re I;3LENGTH x;2*9 8c 2;2*f 8e4 1;3TSA",
  "3TSHA;3DZA;3DZHA;3ZHA;3ZA;3-A;2*8 5c2 1;3KSSA;2n cn x;2s vr;3ca;4w or;3CANDRA w or;3an;3vi",
  "2CLUSTER-INITIAL l RA;2CLUSTER-FINAL*4 8fc 1;2h HEAD x;2CLOSING HEAD x;2x TSHEG;3SHAD;3d SHAD",
  "3ln TSHEG;2h DOUBLE-LINED HEAD x;2CLOSING*1 1 3;2SUBJOINER;11a50:0SOYOMBO*5 48 2;3O;3OE;3AI;3AU",
  "3vc R;4L;1*9 49 2;2JHA;1*13 4a 2;1*c 49 2;1*2 63d 1;1*1 44 2;3LA;3SHA;3SA;1n cn s G;4K;4NG;4D",
  "4N;4B;4M;4R;4L;4SH;4S;4-A;1s an;2vi;1GEMINATION x;1*1 4a 2;1*3 51 2;2PLUTA",
  "1HEAD x w MOON k SUN k tp FLAME;8FLAME;6SUN;1TERMINAL MARK-1;+1",
  "11ab0:0CANADIAN SYLLABICS NATTILIK HI;3HII;3HO;3HOO;3HA;3HAA;3SHRI;3SHRII;3SHRO;3SHROO;3SHRA",
  "3SHRAA;2SPE;2SPI;2SPO;2SPA;0PAU CIN HAU l PA;4KA;4LA;4MA;4DA;4ZA;4VA;4NGA;4HA;4GA;4KHA;4SA;4BA",
  "4CA;4TA;4THA;4NA;4PHA;4RA;4FA;4CHA;3*5 d97 1;4UA;4IA;4n P;5K;5T;5M;5N;5L;5W;5NG;5Y",
  "3RISING to ln;4to;3SANDHI GLOTTAL so;3RISING to ln n;5n;3SANDHI GLOTTAL so n;4*2 6 4;5ln n;5n",
  "3MID-LEVEL to;3GLOTTAL so VARIANT;3MID-LEVEL*2 9 4;3LOW-FALLING*2 e 4;3*1 e 4",
  "3LOW-FALLING*2 e 4;3*1 e 4;11c00:0BHAIKSUKI*9 6a3 1;11c0a:1*2d 38a 1;11c38:1*8 33a 1;2AVAGRAHA",
  "1*3 4f4 1;1GAP FILLER-1;+1;11c50:1*a df7 1;1*12 1088 1;1HUNDREDS UNIT x;11c70:0MARCHEN HEAD x",
  "1x SHAD;1*3 a1f 1;1*5 1c7 2;1*3 a1a 1;1*4 a19 1;1*4 134 2;2WA;1*6 134 2;1*3 4d9 1;2A",
  "11c92:1SUBJOINED*16 1e 1;11ca9:2*7 1d 1;1vo s*4 669 2;1*3 1de 2;11d00:0MASARAM GONDI*7 6d7 1",
  "11d08:3AI;3O;11d0b:2*23 744 1;3KSSA;3JNYA;3TRA;2*6 601 1;11d3a:4E;11d3c:4AI;4O;11d3f:4AU",
  "2*3 487 1;3CANDRA;2*2 21b 2;2REPHA;2RA-KARA;11d50:2*a e99 1;11d60:0GUNJALA*6 4b 1;11d67:3EE;3AI",
  "11d6a:3OO;3AU;3YA;3VA;2*3 aa4 1;3KA;3KHA;3TA;3THA;3LA;3GA;3GHA;2*3 ab3 1;3CA;3CHA;2*2 f4 1;3LLA",
  "3JA;3JHA;2*2 f7 1;3NGA;3PA;3PHA;3HA;3RA;3SA;2*5 71d 1;11d90:4EE;4AI;11d93:4OO;2*3 3c2 1;2vr;2OM",
  "11da0:2*a ed8 1;11ee0:0MAKASAR l KA;2GA;2NGA;2PA;2BA;2MA;2TA;2DA;2NA;2CA;2JA;2NYA;1*5 603 1;2A",
  "1ANGKA;1*4 a3 1;1PASSIMBANG;1END OF SECTION;11fb0:0LISU l YHA",
  "11fc0:0TAMIL FRACTION ONE THREE-HUNDRED-AND-TWENTIETH;3ONE-HUNDRED-AND-SIXTIETH;3EIGHTIETH",
  "3SIXTY-FOURTH;3FORTIETH;3THIRTY-SECOND;2j EIGHTIETHS;3SIXTY-FOURTHS;2ONE TWENTIETH;3SIXTEENTH-1",
  "+1;3TENTH;3EIGHTH;2j TWENTIETHS;3SIXTEENTHS;2ONE FIFTH;3qa;3HALF-1;+1;2j QUARTERS",
  "2DOWNSCALING FACTOR KIIZH;1s NEL;2CEVITU;2AAZHAAKKU;2UZHAKKU;2MUUVUZHAKKU;2KURUNI;2PATHAKKU",
  "2MUKKURUNI;2KAACU;2PANAM;2PON;2VARAAKAN;2PAARAM;2KUZHI;2VELI;1WET CULTIVATION s;1DRY*1 1 2",
  "1LAND s;1SALT PAN s;1TRADITIONAL CREDIT s;2nu s;1CURRENT s;1k ODD s;1SPENT s;1TOTAL s",
  "1IN POSSESSION s;1STARTING FROM s;1s MUTHALIYA;2VAKAIYARAA;11fff:1pu END OF TEXT"]

end Dalvik.Text
