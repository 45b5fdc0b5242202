/-!
Names of the characters of the European and Semitic alphabets. The entries are in the form that
`addNames` reads.
-/

namespace Dalvik.Text

def letterNames : List String := [
  "20:0SPACE;0ex x;0qu x;0nu s;0DOLLAR s;0PERCENT s;0AMPERSAND;0APOSTROPHE;0e pa;0r pa;0as;0pl s",
  "0cm;0HYPHEN-MINUS;0FULL so;0SOLIDUS;0dg ze;1ONE;1TWO;1j;1fo;1fi;1SIX;1se;1ei;1ni;0COLON",
  "0SEMICOLON;0le s;0ea s;0gr s;0qe x;0COMMERCIAL AT;0lb c l A;3B;3C;3D;3E;3F;3G;3H;3I;3J;3K;3L;3M",
  "3N;3O;3P;3Q;3R;3S;3T;3U;3V;3W;3X;3Y;3Z;0e sq br;0REVERSE SOLIDUS;0r sq br;0cr ad;0LOW lc;0ga ad",
  "0lb m*1a 20 2;0e CURLY br;0v lc;0r*1 2 1;0tl;a0:0NO-BREAK SPACE;0in ex x;0CENT s;0POUND s",
  "0CURRENCY s;0YEN s;0BROKEN BAR;0SECTION s;0di;0COPYRIGHT s;0FEMININE ORDINAL INDICATOR",
  "0lf d ag qu x;0NOT s;0SOFT HYPHEN;0REGISTERED s;0mc;0DEGREE s;0PLUS-MINUS s;0SUPERSCRIPT TWO;1j",
  "0ac ad;0MICRO s;0PILCROW s;0mi DOT;0CEDILLA;0SUPERSCRIPT ONE;0MASCULINE*1 10 1;0ri*1 10 1",
  "0VULGAR FRACTION ONE qa;3hl;2j QUARTERS;0in qe x;0lb c l A w ga;5ac;5cr;5tl;5di;5rn b;3AE",
  "3C w*1 f 0;3E*3 8 4;5di;3I*4 4 4;3ETH;3N w tl;3O*5 12 4;0mu s;0lb c l O w st;3U*4 11 4;3Y w ac",
  "3THORN;1m l SHARP S;2*17 20 2;0DIVISION s;0lb m*7 20 2;3Y w di;1c l A w mc;&;1c l A w BREVE;&",
  "1c l A w OGONEK;&;1c l C w ac;&;1c l C w cr;&;1c l C w DOT b;&;1c l C w CARON;&;1c l D*1 2 4;&",
  "1c l D w st;&;1c l E w mc;&;1c l E w BREVE;&;1c l E*1 c 4;&;1c l E*1 14 4;&;1c l E*1 e 4;&",
  "1c l G w cr;&;1c l G*1 a 4;&;1c l G*1 a 4;&;1c l G*1 5b 4;&;1c l H w cr;&;1c l H w st;&",
  "1c l I w tl;&;1c l I w mc;&;1c l I*1 e 4;&;1c l I*1 2a 4;&;1c l I*1 f 4;1m l DOTLESS I;1c lg IJ",
  "&;1c l J w cr;&;1c l K*1 6f 4;&;3KRA;1c l L w ac;&;1c l L*1 74 4;&;1c l L w CARON;&",
  "1c l L w mi DOT;&;1c l L w st;&;1c l N w ac;&;1c l N*1 7e 4;&;1c l N*1 a 4;&",
  "4PRECEDED BY*1 101 0;1c l ENG;&;1c l O w mc;&;1c l O w BREVE;&;1c l O w d ac;&;1c lg OE;&",
  "1c l R w ac;&;1c l R*1 8f 4;&;1c l R w CARON;&;1c l S w ac;&;1c l S w cr;&;1c l S*1 97 4;&",
  "1c l S*1 8 4;&;1c l T*1 9b 4;&;1c l T*1 c 4;&;1c l T w st;&;1c l U w tl;&;1c l U w mc;&",
  "1c l U w BREVE;&;1c l U w rn b;&;1c l U w d ac;&;1c l U*1 6e 4;&;1c l W w cr;&;1c l Y w cr;&",
  "1c*1 79 2;3Z w ac;&;1c l Z w DOT b;&;1c l Z w CARON;&;3ln S;3B w st;1c l B w ho;5TOPBAR;&",
  "1c l to SIX;&;1c l oe O;3C w ho;&;1c l AFRICAN D;3D*2 9 4;&;3tu DELTA;1c l re E;3SCHWA;3oe E",
  "3F w ho;&;1c l G w ho;3GAMMA;1m l HV;1c l IOTA;3I w st;3K w ho;&;3L w BAR;3LAMBDA w st",
  "1c l tu M;3N w e ho;1m l N w ln r LEG;1c l O w mi tl;5HORN;&;1c l OI;&;1c l P w ho;&;1l YR",
  "1c l to TWO;&;1c l ESH;1l re ESH LOOP;1m l T w pt ho;1c l T w ho;&;1c l T w rt ho;3U w HORN;&",
  "1c l us;3V w ho;3Y w ho;&;1c l Z w st;&;1c l EZH;4re;&;4w TAIL;1l TWO w st;1c l to fi;&",
  "1l in GLOTTAL so w st;2WYNN;2DENTAL CLICK;2LATERAL CLICK;2ALVEOLAR CLICK;2rt CLICK",
  "1c l DZ w CARON;3D w*1 47 1;1m*1 2 2;1c l LJ;3L w m l J;1m l LJ;1c l NJ;3N*1 3 4;1m l NJ",
  "1c l A*1 9 4;&;1c l I*1 b 4;&;1c l O*1 d 4;&;1c l U*1 f 4;&;1c l U w di k mc;&;1c l U w di k ac",
  "&;1c l U w di k CARON;&;1c l U w di k ga;&;3tu E;1c l A*1 9 4;&;1c l A w DOT b k mc;&",
  "1c l AE w mc;&;1c l G w st;&;1c l G w CARON;&;1c l K*1 2 4;&;1c l O*1 e6 4;&",
  "1c l O w OGONEK k mc;&;1c l EZH*1 8 4;&;3J*1 a 4;1c l DZ;3D w m l Z;1m l DZ;1c l G w ac;&",
  "1c l HWAIR;3WYNN;3N w ga;&;1c l A w rn b k ac;&;1c l AE w ac;&;1c l O w st k ac;&;1c l A w d ga",
  "&;1c l A w in BREVE;&;1c l E w d ga;&;1c l E*1 4 4;&;1c l I w d ga;&;1c l I*1 8 4;&",
  "1c l O w d ga;&;1c l O*1 c 4;&;1c l R w d ga;&;1c l R*1 10 4;&;1c l U w d ga;&;1c l U*1 14 4;&",
  "1c l S w cm p;&;1c l T w cm p;&;1c l YOGH;&;1c l H w CARON;&;1c*1 82 2;1m l D w CURL;1c l OU;&",
  "1c l Z w ho;&;1c l A w DOT b;&;1c l E*1 161 4;&;1c l O*1 55 4;&;1c l O w tl k mc;&;1c l O*1 8 4",
  "&;1c l O*1 50 4;&;1c l Y w mc;&;3L w CURL;3N w CURL;3T w CURL;3DOTLESS J;3DB dr;3QP dr",
  "1c l A w st;3C w st;&;1c*1 a3 2;3T w da st;1m l S w SWASH TAIL;3Z*1 1 4;1c l GLOTTAL so;&",
  "1c*1 c3 2;3U BAR;3tu V;3E w st;&;1c l J w st;&;1c l m Q w ho TAIL;1m l*1 1 4;1c l R w st;&",
  "1c l Y w st;&;3tu A;3ALPHA;3tu ALPHA;3B w ho;3oe O;3C w CURL;3D w TAIL;5ho;2*2 ca 2;4w ho;3oe E",
  "3re oe E;6w ho;3cl*1 2 3;3DOTLESS J w st;3G w ho;3SCRIPT G;1l m c G;1m l GAMMA;3RAMS HORN;3tu H",
  "3H w ho;3HENG w ho;3I w st;3IOTA;1l m c I;1m l L w mi tl;5BELT;5rt ho;3LEZH;3tu M;5w ln LEG",
  "3M w ho;3N w e ho;5rt ho;1l m c N;1m l BARRED O;1l m c OE;1m l cl OMEGA;3PHI;3tu R;5*1 a 5;6ho",
  "3R*1 c 5;5TAIL;5FISHHOOK;3re*1 1 3;1l m c R;4in R;1m l S w ho;3ESH;3DOTLESS J w st k ho",
  "3SQUAT re ESH;3ESH w CURL;3tu T;2*1 da 2;3U BAR;2*2 d9 2;3tu V;4W;4Y;1l m c Y;1m l Z*1 8 4",
  "5CURL;3EZH;4w CURL;1*1 53 2;2PHARYNGEAL VOICED FRICATIVE;2in*1 55 3;2STRETCHED C",
  "2BILABIAL CLICK;2m c B;1m l cl oe E;1l m c G w ho;4H;1m l J w CROSSED-TAIL;3tu K;1l m c L",
  "1m l Q w ho;1l*1 e3 3;2re*1 e4 3;1m l DZ dr;3DEZH dr;3DZ dr w CURL;3TS dr;3TESH dr;3TC*1 3 4",
  "3FENG dr;3LS dr;3LZ dr;1l BILABIAL PERCUSSIVE;2BIDENTAL*1 1 3;1m l tu H*1 30 4;7k TAIL",
  "0mf l m H;4w ho;3J;3R;3tu R;5w ho;3c in R;3W;3Y;2PRIME;2d PRIME;2tu cm;2*1 274 0;2re cm",
  "2r hl rn;2e hl rn;1*1 7f 2;2re*1 80 3;2e ar;2r ar;2UP ar;2dw ar;2cr ad;0CARON;0mf l v lc;2mc",
  "2ac ad;2ga ad;2LOW*2 4 2;3ga ad;3ac ad;2ta COLON;2hl*1 1 2;2CENTRED*2 14 2;2UP TACK;2dw TACK",
  "2pl s;2MINUS s;0BREVE;0DOT b;0rn b;0OGONEK;0m tl;0d ac ad;0mf l RHOTIC ho;2cb ad;2m GAMMA;3L;3S",
  "3X;3*1 23 2;2EXTRA-HIGH to BAR;2hg to BAR;2MID to BAR;2LOW to BAR;2EXTRA-LOW to BAR",
  "2YIN DEPARTING to x;2YANG*1 1 3;2VOICING;2UNASPIRATED;2d*1 2a6 0;2LOW dw ar;3UP ar;3*2 2f 2;3rn",
  "2mi ga ad;3d*2 27 3;2LOW tl;2RAISED COLON;2BEGIN hg to;2END hg to;2BEGIN LOW to;2END LOW to",
  "2SHELF;2oe SHELF;2LOW e a;0co*2 32 3;1cr ad;1tl;1mc;1OVERLINE;1*2 2e 0;1di;1ho b;1rn b;1d ac ad",
  "1CARON;1v lc b;1d v lc b;2ga ad;1ca;1in BREVE;1tu cm b;1cm b;1re cm b;1cm b r;1ga ad p;1ac ad p",
  "1e TACK p;1r TACK p;1e ag b;1HORN;1e hl rn p;1UP TACK p;1dw TACK p;1pl s p;1MINUS s p",
  "1PALATALIZED ho p;1rt ho p;1DOT p;1di p;1rn p;1cm p;1CEDILLA;1OGONEK;1v lc p;1BRIDGE p",
  "1in d ARCH p;1CARON p;1cr ad p;1BREVE p;1in*1 1 1;1tl p;1mc p;1LOW lc;1d LOW lc;1tl OVERLAY",
  "1sh st*1 1 2;1ln*1 1 2;1sh SOLIDUS*1 3 2;1ln*1 1 2;1r hl rn p;1in*1 10 1;1sq p;1SEAGULL p;1X b",
  "1v tl;1d*1 3a 1;1ga to x;1ac to x;1GREEK pe;2KORONIS;2DIALYTIKA TONOS;2yp;1BRIDGE b;1ea s p",
  "1d v lc p;1e ag p;1NOT tl b;1HOMOTHETIC b;1ALMOST eq TO b;1e r a p;1up a p;1GRAPHEME JOINER",
  "1r ar b;1e hl rn b;1FERMATA;1X p;1e ar p;1r ar p;3k UP ar p;2hl rn b;1DOT b r;1as p;1d rn p",
  "1ZIGZAG b;1d BREVE p;2BREVE;2mc;3p;2tl;2in BREVE;2g a p;1lb m l A;4E;4I;4O;4U;4C;4D;4H;4M;4R;4T",
  "4V;4X;0GREEK c l HETA;&;1c l ARCHAIC SAMPI;&;1NUMERAL s;1lo*1 1 1;1c l PAMPHYLIAN DIGAMMA;&",
  "37a:1yp;1m re LUNATE SIGMA y;2dd*1 1 3;2re*1 1 2;1qe x;1c l YOT;384:1TONOS;0*1 3b 1",
  "1c l ALPHA w TONOS;1ANO TELEIA;1c l ep*1 2 4;3ETA*1 3 4;3IOTA*1 4 4;38c:3OMICRON*1 5 4",
  "38e:3us*1 6 4;3OMEGA*1 7 4;1m l IOTA w DIALYTIKA k TONOS;1c l ALPHA;3BETA;3GAMMA;3DELTA;3ep",
  "3ZETA;3ETA;3THETA;3IOTA;3KAPPA;3LAMDA;3MU;3NU;3XI;3OMICRON;3PI;3RHO;3a3:3SIGMA;3TAU;3us;3PHI",
  "3CHI;3PSI;3OMEGA;3IOTA w DIALYTIKA;3us*1 1 4;1m*1 23 2;2*3 22 2;3us*1 1f 4;2*11 1f 2;3n SIGMA",
  "2*9 20 2;2*3 3e 2;1c KAI y;1BETA y;1THETA y;1us w ho y;3ac k ho y;3di k ho y;1PHI y;1PI y",
  "1KAI y;1l ARCHAIC KOPPA;1m*1 1 1;1l STIGMA;1m*1 1 1;1l DIGAMMA;1m*1 1 1;1l KOPPA;1m*1 1 1",
  "1l SAMPI;1m*1 1 1;0COPTIC c l SHEI;&;1c l FEI;&;1c l KHEI;&;1c l HORI;&;1c l GANGIA;&",
  "1c l SHIMA;&;1c l DEI;&;0GREEK KAPPA y;1RHO y;1*1 70 3;1l YOT;1c THETA y;1LUNATE ep y;1re*1 1 1",
  "1c l SHO;&;1c*1 77 3;2l SAN;&;1RHO w st y;1c*3 7b 2;0CYRILLIC c l IE w ga;3IO;3DJE;3GJE",
  "3UKRAINIAN IE;3DZE;3BYELORUSSIAN-UKRAINIAN I;3YI;3JE;3LJE;3NJE;3TSHE;3KJE;3I w ga;3sh U;3DZHE",
  "3A;3BE;3VE;3GHE;3DE;3IE;3ZHE;3ZE;3I;3sh I;3KA;3EL;3EM;3EN;3O;3PE;3ER;3ES;3TE;3U;3EF;3HA;3TSE",
  "3CHE;3SHA;3SHCHA;3HARD s;3YERU;3SOFT s;3E;3YU;3YA;1m*20 20 2;2*10 50 2;1*1 b7 1;&;1c l YAT;&",
  "1c l IOTIFIED E;&;1c l lt YUS;&;1c l IOTIFIED lt YUS;&;1c l BIG YUS;&;1c l IOTIFIED*1 2 3;&",
  "1c l KSI;&;1c l PSI;&;1c l FITA;&;1c l IZHITSA;&;1c l IZHITSA w d ga ad;&;1c l UK;&",
  "1c l ROUND OMEGA;&;1c l OMEGA w TITLO;&;1c l OT;&;1c l KOPPA;&;1THOUSANDS s;0co CYRILLIC TITLO",
  "2PALATALIZATION;2ds PNEUMATA;2ps*1 1 3;2POKRYTIE;2hu*1 6 1;2MILLIONS s",
  "0CYRILLIC c l sh I w TAIL;&;1c l SEMISOFT s;&;1c l ER w TICK;&;1c l GHE w UPTURN;&",
  "1c l GHE w st;&;1c l GHE w mi ho;&;1c l ZHE w dc;&;1c l ZE w dc;&;1c l KA w dc;&;1c l KA w v st",
  "&;1c l KA w st;&;1c l BASHKIR KA;&;1c l EN w dc;&;1c lg EN GHE;&;1c l PE w mi ho;&",
  "1c l ABKHASIAN HA;&;1c l ES w dc;&;1c l TE w dc;&;1c l sg U;&;1c l sg U w st;&;1c l HA w dc;&",
  "1c lg TE TSE;&;1c l CHE w dc;&;1c l CHE w v st;&;1c l SHHA;&;1c l ABKHASIAN CHE;&",
  "1c l ABKHASIAN*1 8 3;&;1l PALOCHKA;1c l ZHE w BREVE;&;1c l KA w ho;&;1c l EL w TAIL;&",
  "1c l EN w ho;&;1c l EN w TAIL;&;1c l KHAKASSIAN CHE;&;1c l EM w TAIL;&;2*1 f 1;1*2 3c5 1",
  "1*1 405 1;&;1c lg A IE;&;1c l IE*1 6 4;&;1c l SCHWA;&;1c l SCHWA w di;&;1c l ZHE w di;&",
  "1c l ZE w di;&;1c l ABKHASIAN DZE;&;1*2 3af 1;1*1 40c 1;&;1*1 407 1;&;1c*1 26a 2;&",
  "1c l BARRED O w di;&;1*1 418 1;&;1*2 37b 1;1*1 40b 1;&;1*2 379 1;1c l CHE w di;&;1c l GHE w dc",
  "&;1c l YERU w di;&;1c l GHE*1 26d 5;&;1c l HA w ho;&;1c l HA w st;&;1c l KOMI DE;&",
  "1c l KOMI DJE;&;1c l KOMI ZJE;&;1c l KOMI DZJE;&;1c l KOMI LJE;&;1c l KOMI NJE;&;1c l KOMI SJE",
  "&;1c l KOMI TJE;&;1c l re ZE;&;1c l EL w ho;&;1c l LHA;&;1c l RHA;&;1c l YAE;&;1c l QA;&",
  "1c l WE;&;1c l ALEUT KA;&;1c l EL w mi ho;&;1c l EN*1 2 4;&;1c l PE w dc;&;1c l SHHA w dc;&",
  "1c l EN w e ho;&;1c l DZZHE;&;1c l DCHE;&;1c l EL w dc;&;531:0ARMENIAN c l AYB;3BEN;3GIM;3DA",
  "3ECH;3ZA;3EH;3ET;3TO;3ZHE;3INI;3LIWN;3XEH;3CA;3KEN;3HO;3JA;3GHAD;3CHEH;3MEN;3YI;3NOW;3SHA;3VO",
  "3CHA;3PEH;3JHEH;3RA;3SEH;3VEW;3TIWN;3REH;3CO;3YIWN;3PIWR;3KEH;3OH;3FEH;559:1*1 28e 0;1*1 506 0",
  "1EMPHASIS x;1ex x;1cm;1qe x;1ab x;1m l tu AYB;2*26 2e 2;2lg ECH YIWN;2l YI w st;1FULL so",
  "1HYPHEN;58d:0RIGHT-FACING ARMENIAN ETERNITY s;0LEFT-FACING*1 1 1;0ARMENIAN DRAM s",
  "591:0HEBREW ad ETNAHTA;2SEGOL;2SHALSHELET;2ZAQEF QATAN;3GADOL;2TIPEHA;2REVIA;2ZARQA;2PASHTA",
  "2YETIV;2TEVIR;2GERESH;3MUQDAM;2GERSHAYIM;2QARNEY PARA;2TELISHA GEDOLA;2PAZER;2ATNAH HAFUKH",
  "2MUNAH;2MAHAPAKH;2MERKHA;3KEFULA;2DARGA;2QADMA;2TELISHA QETANA;2YERAH BEN YOMO;2OLE;2ILUY;2DEHI",
  "2ZINOR;1x MASORA ci;1POINT SHEVA;2HATAF SEGOL;3PATAH;3QAMATS;2HIRIQ;2TSERE;2*3 5 3;2HOLAM",
  "3HASER FOR VAV;2QUBUTS;2DAGESH OR MAPIQ;2METEG;1pu MAQAF;1POINT RAFE;1pu PASEQ;1POINT SHIN DOT",
  "2SIN DOT;1pu SOF PASUQ;1x ue DOT;2lo DOT;1pu NUN HAFUKHA;1POINT QAMATS QATAN;5d0:1l al;2BET",
  "2GIMEL;2DALET;2HE;2VAV;2ZAYIN;2HET;2TET;2YOD;2n KAF;2KAF;2LAMED;2n MEM;2MEM;2n NUN;2NUN;2SAMEKH",
  "2AYIN;2n PE;2PE;2n TSADI;2TSADI;2QOF;2RESH;2SHIN;2TAV;5ef:1YOD tr;1lg YIDDISH d VAV;3VAV YOD",
  "3d YOD;1pu GERESH;2*1 4a 2;600:0ARABIC nu s;1s SANAH;1FOOTNOTE MARKER;1s SAFHA;2SAMVAT;1nu x b",
  "0ARABIC-INDIC CUBE ROOT;1FOURTH ROOT;0ARABIC RAY;0ARABIC-INDIC PER MILLE s;2TEN th s;0AFGHANI s",
  "0ARABIC cm;1DATE sp;1POETIC VERSE s;1s MISRA;2SALLALLAHOU ALAYHE WASSALLAM;2ALAYHE ASSALLAM",
  "2RAHMATULLAH ALAYHE;2RADI ALLAHOU ANHU;2TAKHALLUS;1m hg TAH;3lg al w LAM w YEH;3ZAIN;2FATHA",
  "2DAMMA;2KASRA;1SEMICOLON;1l x;1END OF TEXT x;1tp DOT pu x;1qe x;1l KASHMIRI YEH;2HAMZA",
  "2al w MADDA b;4HAMZA b;2WAW*1 1 3;2al w HAMZA p;2YEH*1 3 3;2al;2BEH;2TEH MARBUTA;2TEH;2THEH;2je",
  "2HAH;2KHAH;2DAL;2THAL;2REH;2ZAIN;2SEEN;2SHEEN;2SAD;2DAD;2TAH;2ZAH;2AIN;2GHAIN;2KEHEH w TWO dt b",
  "4j dt p;2FARSI YEH w in V;4*1 3 3;5j dt b;1TATWEEL;1l FEH;2QAF;2KAF;2LAM;2mm;2NOON;2HEH;2WAW",
  "2al ma;2YEH;1FATHATAN;1DAMMATAN;1KASRATAN;1*3 36 2;1SHADDA;1SUKUN;1MADDAH b;1HAMZA b;2p",
  "1SUBSCRIPT al;1in DAMMA;1x NOON GHUNNA;1ZWARAKAY;1vo s m V b;3in m V b;3DOT p;1re DAMMA",
  "1FATHA w TWO dt;1WAVY*1 a 1;0ARABIC-INDIC*a 5e9 0;0ARABIC*1 5fe 0;1DECIMAL sp;1THOUSANDS sp",
  "1fi pi STAR;1l DOTLESS BEH;3QAF;2SUPERSCRIPT al;2al WASLA;3w WAVY*2 1e 1;2hg HAMZA;4al;4WAW",
  "2U*1 54 3;2hg HAMZA YEH;2TTEH;2TTEHEH;2BEEH;2TEH w rn;4j dt b do;2PEH;2TEHEH;2BEHEH;2HAH*1 5e 3",
  "4TWO dt v b;2NYEH;2DYEH;2HAH*1 46 4;2TCHEH;2TCHEHEH;2DDAL;2DAL w rn;4DOT p;6k m TAH;2DAHAL",
  "2DDAHAL;2DUL;2DAL*1 12 3;4fo dt b;2RREH;2REH w m V;3*2 a 3;4m V p;4DOT p k DOT b;4TWO dt b;2JEH",
  "2REH*1 9 3;2SEEN*1 4 3;4j dt p;7k j dt b;2SAD w TWO dt p;4j dt b;2TAH*1 60 4;2AIN*1 61 4",
  "2DOTLESS FEH;2FEH w DOT MOVED p;5p;2VEH;2FEH*1 69 3;2PEHEH;2QAF w DOT b;4j dt b;2KEHEH",
  "2SWASH KAF;2KAF w rn;4DOT b;2NG;2KAF*1 72 3;2GAF;3w rn;2NGOEH;2GAF*1 15 3;2GUEH;2GAF*1 75 4",
  "2LAM w m V;3*2 f 3;6p;2NOON w DOT p;3GHUNNA;2RNOON;2NOON w rn;4j dt b;2HEH DOACHASHMEE",
  "2TCHEH*1 9 3;2HEH w YEH b;3GOAL;4*1 9f 3;2TEH MARBUTA GOAL;2WAW w rn;2KIRGHIZ OE;2OE;2U;2YU",
  "2KIRGHIZ YU;2WAW*1 8f 3;2VE;2FARSI YEH;2YEH w TAIL;4m V;2WAW w DOT b;2E;2YEH*1 95 3;3BARREE",
  "4*1 b0 3;1FULL so;1l AE;1m hg lg SAD w LAM w al ma;4QAF*1 1 5;3mm h f;3LAM al;3je;3j dt;3SEEN",
  "1END OF AYAH;1START OF RUB EL HIZB;1m hg ROUNDED ze;3UPRIGHT RECTANGULAR ze",
  "3DOTLESS HEAD OF KHAH;3mm i f;2LOW SEEN;2hg MADDA;2WAW;2YEH;2hg YEH;3NOON;1PLACE OF SAJDAH",
  "1EMPTY ce LOW so;3hg so;1ROUNDED hg so w FILLED ce;1m LOW mm;1l DAL w in V;2REH w in V",
  "0EXTENDED*a 90 0;0ARABIC l SHEEN w DOT p;2DAD*1 1 3;2GHAIN*1 2 3;1s SINDHI*1 690 0",
  "3POSTPOSITION MEN;1l HEH w in V;0SYRIAC END OF PARAGRAPH;1SUPRALINEAR FULL so;1SUBLINEAR*1 1 2",
  "1SUPRALINEAR COLON;1SUBLINEAR COLON;1z COLON;1COLON SKEWED e;3r;1SUPRALINEAR*1 2 1",
  "1SUBLINEAR*1 2 1;1CONTRACTION;1HARKLEAN OBELUS;2METOBELUS;2ASTERISCUS;70f:1ab x;1l ALAPH",
  "2SUPERSCRIPT ALAPH;2BETH;2GAMAL;3GARSHUNI;2DALATH;2DOTLESS DALATH RISH;2HE;2WAW;2ZAIN;2HETH",
  "2TETH;3*1 8 3;2YUDH;3HE;2KAPH;2LAMADH;2MIM;2NUN;2SEMKATH;2n*1 1 2;2E;2PE;2re PE;2SADHE;2QAPH",
  "2RISH;2SHIN;2TAW;2PERSIAN BHETH;3GHAMAL;3DHALATH;1PTHAHA b;2p;2dd;1ZQAPHA*3 3 2;1RBASA b;2p",
  "1dd ZLAMA z;3ANGULAR;1HBASA b;2p;1HBASA-ESASA dd;1ESASA b;2p;1RWAHA;1FEMININE DOT;1QUSHSHAYA",
  "1RUKKAKHA;1TWO v dt b;4p;1*2 8d 4;1OBLIQUE lc b;3p;1MUSIC;1BARREKH;74d:1l SOGDIAN ZHAIN;3KHAPH",
  "3FE;0ARABIC l BEH w j dt HORIZONTALLY p;4DOT*1 b2 6;4j dt po up p;9k*1 b9 4;4TWO dt*1 bb 5",
  "4in m V p;4m V;2HAH*1 119 3;3*1 6 3;2DAL w TWO dt VERTICALLY*1 cb 5;3*1 5 3;2REH w st",
  "2SEEN*1 c9 3;2AIN*1 6 3;4j dt po do b;4TWO dt VERTICALLY b;2FEH*1 c0 3;3*1 f 3;2KEHEH*2 b8 3",
  "6po up p;2mm*1 3 3;5p;2NOON*1 c7 3;4m TAH;5V;2LAM w BAR;2REH*1 c 3;4HAMZA b;2SEEN*1 e 3",
  "2HAH w m ARABIC l TAH p;8k TWO dt;2SEEN*1 1 3;2REH*1 2 3;2HAH w m ARABIC l TAH b",
  "2al w EXTENDED ARABIC-INDIC dg TWO b;7j b;2FARSI YEH*2 2 3;8fo p;2WAW*2 5 3;2YEH BARREE*2 7 3",
  "2HAH*1 5 4;2SEEN w EXTENDED ARABIC-INDIC dg fo b;4in V;2KAF*1 141 3;0THAANA l HAA;2SHAVIYANI",
  "2NOONU;2RAA;2BAA;2LHAVIYANI;2KAAFU;2ALIFU;2VAAVU;2MEEMU;2FAAFU;2DHAALU;2THAA;2LAAMU;2GAAFU",
  "2GNAVIYANI;2SEENU;2DAVIYANI;2ZAVIYANI;2TAVIYANI;2YAA;2PAVIYANI;2JAVIYANI;2CHAVIYANI;2TTAA;2HHAA",
  "2KHAA;2THAALU;2ZAA;2SHEENU;2SAADHU;2DAADHU;2TO;2ZO;2AINU;2GHAINU;2QAAFU;2WAAVU;1ABAFILI",
  "1AABAAFILI;1IBIFILI;1EEBEEFILI;1UBUFILI;1OOBOOFILI;1EBEFILI;1EYBEYFILI;1OBOFILI;1OABOAFILI",
  "1SUKUN;1l NAA;7c0:0NKO*a 738 0;1l A;2EE;2I;2E;2U;2OO;2O;2DAGBASINNA;2N;2BA;2PA;2TA;2JA;2CHA;2DA",
  "2RA;2RRA;2SA;2GBA;2FA;2KA;2LA;2NA WOLOSO;2MA;2NYA;2NA;2HA;2WA;2YA;2NYA WOLOSO;2JONA JA;3CHA;3RA",
  "1co sh hg to;3LOW to;3RISING to;2ln DESCENDING to;3*3 4 3;2NASALIZATION x;2d DOT b",
  "1hg to*1 775 0;1LOW*1 1 2;1y OO DENNEN;2GBAKURUNEN;1cm;1ex x;1LAJANYALAN;7fd:1DANTAYALAN",
  "1DOROME s;1TAMAN s;0SAMARITAN l ALAF;2BIT;2GAMAN;2DALAT;2IY;2BAA;2ZEN;2IT;2TIT;2YUT;2KAAF",
  "2LABAT;2MIM;2NUN;2SINGAAT;2IN;2FI;2TSAADIY;2QUF;2RISH;2SHAN;2TAAF;1x IN;2IN-ALAF;2OCCLUSION",
  "2DAGESH;1mf l EPENTHETIC YUT;1x*1 1 3;1vo s ln E;3E;3OVERLONG AA;3ln AA;3AA;3OVERLONG A;3ln A",
  "3A;1mf l sh A;1vo s sh A;3ln U;3U;1mf l I;1vo s ln I;3I;3O;3SUKUN;1x NEQUDAA;830:1pu*1 1 2",
  "2AFSAAQ;2ANGED;2BAU;2ATMAAU;2SHIYYAALAA;1ab x;1pu MELODIC QITSA;2ZIQAA;2QITSA;2ZAEF;2TURU",
  "2ARKAANU;2SOF MASHFAAT;2ANNAAU;840:0MANDAIC l HALQA;2AB;2AG;2AD;2AH;2USHENNA;2AZ;2IT;2ATT;2AKSA",
  "2AK;2AL;2AM;2AN;2AS;2IN;2AP;2ASZ;2AQ;2AR;2ASH;2AT;2DUSHENNA;2KAD;2AIN;1AFFRICATION x",
  "1VOCALIZATION x;1GEMINATION x;85e:1pu;860:0SYRIAC l MALAYALAM NGA;3JA;3NYA;3TTA;3NNA;3NNNA;3BHA",
  "3RA;3LLA;3LLLA;3SSA;870:0ARABIC l al w ATTACHED FATHA;5TOP r FATHA;4r mi st;4e mi st",
  "4ATTACHED KASRA;5bo r KASRA;5ROUND DOT b;5r ROUND DOT;5e*1 1 6;5ROUND DOT p;4DOT b",
  "4ATTACHED TOP r FATHA k DOT b;4r mi st*1 1 8;4ATTACHED bo r KASRA*1 2 8;5TOP r FATHA k e rn",
  "4r mi st k e rn;4ATTACHED bo r KASRA k e rn;5r HAMZA;5e HAMZA;1TATWEEL w OVERSTRUCK HAMZA;4WAW",
  "3TWO dt p;1l THIN YEH;1BASELINE*1 10 6;1RAISED*1 11 6;1l NOON w in m V;2HAH*1 11a 3",
  "2TAH w DOT p;4j dt p;2KEHEH w TWO dt VERTICALLY p;1v TAIL;890:1POUND x b;1PIASTRE x b",
  "898:1m hg WORD AL-JUZ;2LOW WORD ISHMAAM;4IMAALA;4TASHEEL;1MADDA WAAJIB",
  "1SUPERSCRIPT al MOKHASSAS;1DOUBLED MADDA;1hl MADDA ov MADDA;1l BEH w m V p;4HAMZA b;2je*1 242 3",
  "2TAH*1 1 3;2FEH*1 131 3;2QAF w DOT p;2LAM w d BAR;2mm w j dt b;2YEH w TWO dt p k*1 7 4;8DOT b",
  "2REH w LOOP;2WAW w DOT WITHIN;2ROHINGYA YEH;2LOW al;2DAL*1 1b 3;2SAD*1 1c 3;2GAF w in st",
  "2sg WAW;2ZAIN w in V b;2AIN*1 20 3;2KAF*1 f 3;2QAF w DOT p k NO dt b;2BEH w m mm b;2PEH*1 1 3",
  "2TEH w m TEH b;2REH w m NOON b;2YEH w TWO dt p k*1 1 4;2AFRICAN FEH;3QAF;3NOON;2PEH w m V",
  "2TEH w m V;2TTEH w m V;2TCHEH w m V;2KEHEH w m V;2GHAIN*1 1c 3;2AFRICAN*1 1f7 2;2je*2 1e9 3",
  "2LAM*1 133 3;2GRAF;1m*1 1d8 2;2hg*1 1 2;3YEH BARREE*1 209 3;3WORD SAH;3ZAH;1la*1 51 5;4p",
  "1SUKUN p;1la ci p;2ROUND DOT INSIDE ci p;1m LOW WAW;2hg WORD AR-RUB;3SAD;3AIN;3QAF",
  "3NOON w KASRA;2LOW*1 1 3;2hg WORD ATH-THALATHA;4AS-SAJDA;4AN-NISF;4SAKTA;4QIF;4WAQFA;3*2 2b9 1",
  "1DISPUTED*1 1e0 1;1tu DAMMA p;1CURLY*3 2a7 2;2*3 277 1;1to ONE DOT b;2TWO dt b;2LOOP b",
  "2ONE DOT p;2TWO dt p;2LOOP p;1oe*3 9 2;1m hg WAW;1FATHA*2 224 3;1KASRA w DOT p;1e ar b;1r ar b",
  "1*2 55a 1;1d r ar b;5w DOT;1*1 1 2;1DAMMA w DOT;1x SIDEWAYS*1 282 2"]

end Dalvik.Text
