/-!
Names of further Latin and Greek letters, of punctuation, arrows and mathematical signs. The entries
are in the form that `addNames` reads.
-/

namespace Dalvik.Text

def extensionNames : List String := [
  "1d00:0lb l m c A;4AE;1m l tu AE;1l m c BARRED B;4C;4D;4ETH;4E;1m l tu oe E;4I;1l m c J;4K",
  "4L w st;4M;4re N;4O;4oe O;1m l SIDEWAYS*2 2 4;4O w st;3tu OE;1l m c OU;1m l TOP hl O;3bo hl O",
  "1l m c P;4re R;4tu R;4T;4U;1m l SIDEWAYS U;4DIAERESIZED U;4tu M;1l m c V;4W;4Z;4EZH",
  "2VOICED LARYNGEAL SPIRANT;2AIN;0GREEK l m c GAMMA;4LAMDA;4PI;4RHO;4PSI;0CYRILLIC l m c EL",
  "0mf l c A;3AE;3B;3BARRED B;3D;3E;3re E;3G;3H;3I;3J;3K;3L;3M;3N;3re N;3O;3OU;3P;3R;3T;3U;3W;2m A",
  "3tu A;3ALPHA;3tu AE;3B;3D;3E;3SCHWA;3oe E;3tu oe E;3G;3tu I;3K;3M;3ENG;3O;3oe O;3*2 3e 3;3P;3T",
  "3U;3*1 3c 3;3tu M;3V;3AIN;3BETA;3GREEK GAMMA;3DELTA;3GREEK PHI;3CHI;0lb SUBSCRIPT m l I;4R;4U",
  "4V;0GREEK SUBSCRIPT m l BETA;4GAMMA;4RHO;4PHI;4CHI;0lb m l UE;3B w mi tl;3D*1 1 4;3F*1 2 4",
  "3M*1 3 4;3N*1 4 4;3P*1 5 4;3R*1 6 4;5FISHHOOK k mi tl;3S*1 8 4;3T*1 9 4;3Z*1 a 4;3tu G",
  "0mf l CYRILLIC EN;0lb m l INSULAR G;3TH w STRIKETHROUGH;2c l I w st;2l IOTA w st;3P w st",
  "2c l U w st;2l us w st;3B w pt ho;3D*1 1 4;3F*1 2 4;3G*1 3 4;3K*1 4 4;3L*1 5 4;3M*1 6 4",
  "3N*1 7 4;3P*1 8 4;3R*1 9 4;3S*1 a 4;3ESH*1 b 4;3V*1 c 4;3X*1 d 4;3Z*1 e 4;3A w rt ho",
  "3ALPHA*1 1 4;3D w ho k TAIL;3E*1 3 4;3oe*1 1 3;3re*1 1 3;3SCHWA*1 6 4;3I*1 7 4;3oe O*1 8 4",
  "3ESH*1 9 4;3U*1 a 4;3EZH*1 b 4;0mf l m tu ALPHA;3C;4w CURL;3ETH;3re oe E;3F;3DOTLESS J w st",
  "3SCRIPT G;3tu H;3I w st;3IOTA;3c I;5w st;3J w CROSSED-TAIL;3L*1 f 4;5pt ho;3c L;3M w ho",
  "3tu M w ln LEG;3N w e ho;5rt ho;3c N;3BARRED O;3PHI;3S w ho;3ESH;3T*1 b 4;3U BAR;3us;3c U",
  "3V w ho;3tu V;3Z;4w rt ho;5CURL;3EZH;3THETA;0co dd ga ad;2ac ad;1SNAKE p;1SUSPENSION x",
  "1MACRON-ACUTE;1GRAVE-MACRON;1MACRON-GRAVE;1ACUTE-MACRON;1GRAVE-ACUTE-GRAVE;1ACUTE-GRAVE-ACUTE",
  "1lb m l R p;1BREVE-MACRON;1MACRON-BREVE;1d cr b;1OGONEK b;1ZIGZAG p;1IS p;1UR b;1US b",
  "1lb m l FLATTENED oe A b;4AE;4AO;4AV;4C CEDILLA;4INSULAR D;4ETH;4G;2l m c G;2m l K;4L;2l m c L",
  "5M;2m l N;2l m c N;5R;2m l R ROTUNDA;4S;4ln S;4Z;4ALPHA;4B;4BETA;4SCHWA;4F;4L w d mi tl",
  "4O w li CENTRALIZATION st;4P;4ESH;4U*1 3 5;4W;4A w di;4O w di;4U w di;1UP TACK b;1KAVYKA b r;3e",
  "1DOT b e;1WIDE in BRIDGE p;1DOT p e;1DELETION x;1d in BREVE p;1ALMOST eq TO p;1e ar b",
  "1r ar k dw ar p;0lb c l A w rn p;&;1c l B w DOT b;&;1c l B w DOT p;&;1c l B w lc p;&",
  "1c l C w CEDILLA k ac;&;1c l D*1 8 4;&;1c l D*1 8 4;&;1c l D w lc p;&;1c l D w CEDILLA;&",
  "1c l D w cr p;&;1c l E w mc k ga;&;1c l E w mc k ac;&;1c l E w cr p;&;1c l E w tl p;&",
  "1c l E w CEDILLA k BREVE;&;1c l F w DOT b;&;1c l G w mc;&;1c l H*1 4 4;&;1c l H w DOT p;&",
  "1c l H w di;&;1c l H*1 18 4;&;1c l H w BREVE p;&;1c l I w tl p;&;1c l I w di k ac;&;1c l K w ac",
  "&;1c l K*1 e 4;&;1c l K w lc p;&;1c l L*1 4 4;&;1c l L w DOT p k mc;&;1c l L w lc p;&",
  "1c l L w cr p;&;1c l M w ac;&;1c l M w DOT b;&;1c l M*1 f 4;&;1c l N*1 4 4;&;1c l N*1 f 4;&",
  "1c l N w lc p;&;1c l N w cr p;&;1c l O w tl k ac;&;1c l O w tl k di;&;1c l O*1 3c 4;&",
  "1c l O*1 3c 4;&;1c l P w ac;&;1c l P w DOT b;&;1c l R*1 2 4;&;1c l R w DOT p;&;1c l R*1 24 4;&",
  "1c l R w lc p;&;1c l S*1 a 4;&;1c l S*1 8 4;&;1c l S w ac k DOT b;&;1c l S w CARON*1 2 6;&",
  "1c l S w DOT p*1 4 6;&;1c l T*1 a 4;&;1c l T*1 a 4;&;1c l T w lc p;&;1c l T w cr p;&",
  "1c l U w di p;&;1c l U w tl p;&;1c l U w cr p;&;1c l U*1 2c 4;&;1c l U w mc k di;&;1c l V w tl",
  "&;1c l V w DOT p;&;1c l W w ga;&;1c l W w ac;&;1c l W w di;&;1c l W w DOT b;&;1c l W*1 a 4;&",
  "1c l X*1 4 4;&;1c l X w di;&;1c l Y*1 8 4;&;1c l Z w cr;&;1c l Z*1 a 4;&;1c l Z w lc p;&",
  "3H w lc p;3T w di;3W w rn b;3Y w rn b;3A w r hl rn;3ln*1 3b 3;6da st;6hg st;1c l SHARP S",
  "1m l DELTA;1c l A*1 e 4;&;1c l A w ho b;&;1c l A w cr k ac;&;1c l A w cr k ga;&",
  "1c l A w cr k ho b;&;1c l A w cr k tl;&;1c l A w cr k DOT p;&;1c l A w BREVE k ac;&",
  "1c l A w BREVE k ga;&;1c l A w BREVE k ho b;&;1c l A w BREVE k tl;&;1c l A w BREVE*1 a 6;&",
  "1c l E w DOT p;&;1c l E w ho b;&;1c l E w tl;&;1c l E*1 1a 4;&;1c l E*1 1a 4;&;1c l E*1 1a 4;&",
  "1c l E*1 1a 4;&;1c l E*1 1a 4;&;1c l I w ho b;&;1c l I w DOT p;&;1c l O*1 2 4;&;1c l O w ho b;&",
  "1c l O*1 2c 4;&;1c l O*1 2c 4;&;1c l O*1 2c 4;&;1c l O*1 2c 4;&;1c l O*1 2c 4;&",
  "1c l O w HORN k ac;&;1c l O w HORN k ga;&;1c l O w HORN k ho b;&;1c l O w HORN k tl;&",
  "1c l O w HORN*1 a 6;&;1c l U w DOT p;&;1c l U w ho b;&;1c l U*1 e 4;&;1c l U*1 e 4;&",
  "1c l U*1 e 4;&;1c l U*1 e 4;&;1c l U*1 e 4;&;1c l Y w ga;&;1c l Y*1 f 4;&;1c l Y w ho b;&",
  "1c l Y w tl;&;1c l MIDDLE-WELSH LL;&;1c l MIDDLE-WELSH V;&;1c l Y w LOOP;&",
  "0GREEK m l ALPHA w ps;5ds;5ps k va;5ds k va;5ps k OXIA;5ds k OXIA;5ps k pe;5ds k pe;1c*8 8 2",
  "1m l ep*6 10 4;1f18:1c*6 6 2;1f20:1m l ETA*8 1c 4;1c*8 8 2;1m l IOTA*8 2c 4;1c*8 8 2",
  "1m l OMICRON*6 3c 4;1f48:1c*6 6 2;1f50:1m l us*8 48 4;1f59:1c*1 7 2;1f5b:6k va;1f5d:7OXIA",
  "1f5f:7pe;1m l OMEGA*8 54 4;1c*8 8 2;1m l ALPHA w*2 13 7;3ep*2 2 4;3ETA*2 4 4;3IOTA*2 6 4",
  "3OMICRON*2 8 4;3us*2 a 4;3OMEGA*2 c 4;1f80:3ALPHA w ps k yp;5ds k yp;5ps k va k yp;5ds*1 1 6",
  "5ps k OXIA k yp;5ds*1 1 6;5ps k pe k yp;5ds*1 1 6;1c l ALPHA w ps k pr;5ds k pr;5ps k va k pr",
  "5ds*1 1 6;5ps k OXIA k pr;5ds*1 1 6;5ps k pe k pr;5ds*1 1 6;1m l ETA*8 10 4;1c l ETA*8 10 4",
  "1m l OMEGA*8 20 4;1c l OMEGA*8 20 4;1m l ALPHA w VRACHY;5mc;5va k yp;5yp;5*1 30 7;1fb6:5pe",
  "6k yp;1c*2 7 2;5va;5OXIA;5pr;1KORONIS;1pr;1ps;1pe;1DIALYTIKA k pe;1m l ETA*3 f 4;1fc6:4*2 f 4",
  "1c*4 52 2;5pr;1ps*3 6c 6;1m l IOTA*2 1e 4;5DIALYTIKA*2 71 6;1fd6:5*2 13 1;1c l IOTA*4 1d 4",
  "1fdd:1*3 79 5;1m l us*4 d 4;3RHO*2 d1 4;3us*2 f 4;1c l us*4 2c 4;2*1 7 2;1*2 18 5;1va",
  "1ff2:1m l OMEGA*3 39 4;1ff6:5pe;6k yp;1c*2 76 2;2*2 74 2;5pr;1OXIA;1ds;2000:0EN QUAD;0EM QUAD",
  "0EN SPACE;0EM SPACE;0THREE-PER-EM SPACE;0FOUR-PER-EM SPACE;0SIX-PER-EM SPACE;0FIGURE SPACE",
  "0pu SPACE;0THIN SPACE;0HAIR SPACE;0ze WIDTH SPACE;2NON-JOINER;2JOINER;0LEFT-TO-RIGHT x",
  "0RIGHT-TO-LEFT x;0HYPHEN;0NON-BREAKING HYPHEN;0FIGURE DASH;0EN DASH;0EM DASH;0z BAR;0d v lc",
  "1LOW lc;0e si qu x;0r*1 1 1;0si LOW-9 qu x;1HIGH-REVERSED-9 qu x;0e d qu x;0r d qu x;0d*2 4 1",
  "0DAGGER;0d DAGGER;0BULLET;0ta BULLET;0ONE DOT LEADER;0TWO*1 1 1;0z ELLIPSIS;0HYPHENATION POINT",
  "0lc sp;0PARAGRAPH sp;0LEFT-TO-RIGHT EMBEDDING;0RIGHT-TO-LEFT*1 1 1;0POP DIRECTIONAL FORMATTING",
  "0LEFT-TO-RIGHT OVERRIDE;0RIGHT-TO-LEFT*1 1 1;0NARROW NO-BREAK SPACE;0PER MILLE s;1TEN th s",
  "0PRIME;0d PRIME;0tp PRIME;0re*3 3 0;0CARET;0si lf ag qu x;1ri*1 1 2;0REFERENCE x;0d ex x",
  "0INTERROBANG;0OVERLINE;0UNDERTIE;0CHARACTER TIE;0CARET INSERTION POINT;0ASTERISM;0HYPHEN BULLET",
  "0FRACTION SLASH;0e sq br w QUILL;0r*1 1 1;0d qe x;0qe ex x;0ex qe x;0TIRONIAN s ET",
  "0re PILCROW s;0q t BULLET;1g BULLET;0LOW as;0re SEMICOLON;0CLOSE UP",
  "0TWO ASTERISKS ALIGNED VERTICALLY;0COMMERCIAL MINUS s;0SWUNG DASH;0in*1 15 0;0FLOWER pu x",
  "0j DOT pu;0QUADRUPLE PRIME;0fo DOT pu;0fi DOT pu;0TWO DOT pu;0fo DOT x;0dd cb;0TRICOLON",
  "0v fo dt;0me MATHEMATICAL SPACE;0WORD JOINER;0FUNCTION APPLICATION;0INVISIBLE ti;1sp;1pl",
  "2066:0LEFT-TO-RIGHT ISOLATE;0RIGHT-TO-LEFT*1 1 1;0FIRST STRONG*1 2 1;0POP DIRECTIONAL*1 3 1",
  "0INHIBIT SYMMETRIC SWAPPING;0ACTIVATE*1 1 1;0INHIBIT ARABIC f SHAPING;0ACTIVATE*1 1 1",
  "0NATIONAL dg SHAPES;0NOMINAL*1 1 1;0SUPERSCRIPT ze;1lb m l I;2074:1fo;1fi;1SIX;1se;1ei;1ni",
  "1pl s;1MINUS;1ea s;1e pa;1r pa;1lb m l N;0SUBSCRIPT ze;1ONE;1TWO;1j;1*b 10 1",
  "2090:0lb SUBSCRIPT m l A;4E;4O;4X;4SCHWA;4H;4*4 344 3;4P;4S;4T;20a0:0EURO-CURRENCY s;0COLON s",
  "0CRUZEIRO s;0FRENCH FRANC s;0LIRA s;0MILL s;0NAIRA s;0PESETA s;0RUPEE s;0WON s;0NEW SHEQEL s",
  "0DONG s;0EURO s;0KIP s;0TUGRIK s;0DRACHMA s;0GERMAN PENNY s;0PESO s;0GUARANI s;0AUSTRAL s",
  "0HRYVNIA s;0CEDI s;0LIVRE TOURNOIS s;0SPESMILO s;0TENGE s;0INDIAN RUPEE s;0TURKISH LIRA s",
  "0NORDIC x s;0MANAT s;0RUBLE s;0LARI s;0BITCOIN s;0SOM s;20d0:0co e ha b;1r ha b",
  "1ln v lc OVERLAY;1sh*1 1 2;1at a b;1CLOCKWISE a b;1e a b;1r a b;1rn*1 6 4;1CLOCKWISE*1 1 1",
  "1at*1 2 1;1j dt b;1fo dt b;1ENCLOSING ci;2sq;2dm;2ci BACKSLASH;1e r a b;1ENCLOSING SCREEN",
  "2KEYCAP;2UPWARD po tr;1REVERSE SOLIDUS*1 d 2;1d v st*1 e 2;1ANNUITY y;1tp UNDERDOT",
  "1WIDE BRIDGE b;1t a*1 5 3;1ln d*1 6 2;1g ha w ba do;1t*1 1 2;1e a p;1r a p;1as b",
  "2100:0ACCOUNT OF;0ADDRESSED TO THE SUBJECT;0DOUBLE-STRUCK c C;0DEGREE CELSIUS;0ce lc y;0CARE OF",
  "0CADA UNA;0EULER CONSTANT;0SCRUPLE;0DEGREE FAHRENHEIT;0SCRIPT m G;1c H;0BLACK-LETTER c H",
  "0DOUBLE-STRUCK c H;0PLANCK*1 7 1;2ov TWO PI;0SCRIPT c I;0BLACK-LETTER c I;0SCRIPT c L;&",
  "0L B BAR y;0DOUBLE-STRUCK c N;0NUMERO s;0SOUND RECORDING COPYRIGHT;0SCRIPT c P",
  "0DOUBLE-STRUCK c P;2Q;0SCRIPT c R;0BLACK-LETTER c R;0DOUBLE-STRUCK c R;0PRESCRIPTION TAKE",
  "0RESPONSE;0SERVICE x;0TELEPHONE s;0TRADE x s;0VERSICLE;0DOUBLE-STRUCK c Z;0OUNCE s;0OHM s",
  "0in OHM s;0BLACK-LETTER c Z;0tu GREEK m l IOTA;0KELVIN s;0ANGSTROM s;0SCRIPT c B",
  "0BLACK-LETTER c C;0ESTIMATED y;0SCRIPT m E;1c E;2F;0tu c F;0SCRIPT c M;1m O;0al y;0BET y",
  "0GIMEL y;0DALET y;0INFORMATION SOURCE;0ro c Q;0FACSIMILE s;0DOUBLE-STRUCK m PI;2GAMMA;1c GAMMA",
  "2PI;1N-ARY SUMMATION;0tu sa c G;3L;0re sa c L;0tu sa c Y;0DOUBLE-STRUCK ITALIC c D;&;3E;3I;3J",
  "0PROPERTY lc;0tu AMPERSAND;0PER s;0AKTIESELSKAB;0tu m F;0y FOR SAMARITAN SOURCE",
  "0VULGAR FRACTION ONE SEVENTH;3NINTH;3TENTH;3THIRD;2TWO THIRDS;2ONE FIFTH;2TWO FIFTHS;2j FIFTHS",
  "2fo FIFTHS;2ONE SIXTH;2fi SIXTHS;2ONE EIGHTH;2j EIGHTHS;2fi*1 1 3;2se*1 2 3",
  "0FRACTION NUMERATOR ONE;0ROMAN NUMERAL*9 bd 1;2TEN;2ELEVEN;2TWELVE;2FIFTY;2ONE hu;2fi hu",
  "2ONE th;0m*10 10 0;0ROMAN NUMERAL ONE th C D;2fi th;2TEN th;2re ONE hu;0lb m l re C",
  "0ROMAN NUMERAL SIX LATE f;2FIFTY EARLY f;3th;2ONE hu th;0VULGAR FRACTION ze THIRDS;0tu dg TWO",
  "2j;2190:0t a;0up a;0g a;0do a;0e r a;0UP dw a;0no WEST a;1es a;0sb es a;1WEST a;0t a w st",
  "0g a w st;0t WAVE a;0g WAVE a;0t TWO HEADED a;0up*1 1 1;0g*1 2 1;0do*1 3 1;0t a w TAIL;0g*1 1 1",
  "0t a FROM BAR;0up*1 1 1;0g*1 2 1;0do*1 3 1;0UP dw a w BASE;0t a w ho;0g a w ho;0t a w LOOP",
  "0g*1 1 1;0e r WAVE a;2a w st;0do ZIGZAG a;0up a w TIP t;4g;0do*2 2 1;0g a w cd do;0do a w cd t",
  "0at TOP SEMICIRCLE a;0CLOCKWISE*1 1 1;0no WEST a TO ln BAR;0t a TO BAR ov g a TO BAR",
  "0at oe ci a;0CLOCKWISE*1 1 1;0t ha w ba up;4do;0up ha w ba g;4t;0g*2 4 1;0do*2 4 1;0g a ov t a",
  "0up a t OF do a;0t a ov g a;1PAIRED ARROWS;0up*1 1 1;0g*1 2 1;0do*1 3 1;0t ha ov g ha",
  "0g ha ov t ha;0t d a w st;0e r*1 1 1;0g*1 2 1;0t d a;0up d a;0g d a;0do d a;0e r d a;0UP dw d a",
  "0no WEST d a;1es d a;0sb es d a;1*1 3 1;0t tp a;0g tp a;0t SQUIGGLE a;0g*1 1 1;0up a w d st",
  "0do*1 1 1;0t DASHED a;0up*1 1 1;0g*1 2 1;0do*1 3 1;0t*1 2b 6;0*1 2c 5;0t u a;0up u a;0g u a",
  "0do u a;0up u*1 46 1;3ON PEDESTAL;5w z BAR;6v BAR;2d a;3*1 4 2;0g u a FROM WALL",
  "0no WEST a TO cd;0sb es*1 1 2;0UP dw u a;0r a w m ci;0do a t OF up a;0j g ARROWS;0t a w v st",
  "0g*1 1 1;0e r*1 2 1;0t a w d v st;0g*1 1 1;0e r*1 2 1;0t OPEN-HEADED a;0g*1 1 1;0e r*1 2 1",
  "0FOR ALL;0COMPLEMENT;0PARTIAL DIFFERENTIAL;0THERE EXISTS;1DOES NOT EXIST;0EMPTY SET;0INCREMENT",
  "0NABLA;0ELEMENT OF;0NOT AN*1 1 0;0m*1 2 0;0CONTAINS AS MEMBER;0DOES NOT CONTAIN*1 1 1;0m*1 2 0",
  "0END OF PROOF;0N-ARY PRODUCT;1COPRODUCT;0*1 cd 1;0MINUS s;0MINUS-OR-PLUS s;0DOT pl",
  "0DIVISION SLASH;0SET MINUS;0as op;0rn op;0BULLET op;0sq ROOT;0CUBE ROOT;0FOURTH ROOT",
  "0PROPORTIONAL TO;0INFINITY;0r ag;0ag;0MEASURED ag;0SPHERICAL ag;0DIVIDES;0DOES NOT DIVIDE",
  "0PARALLEL TO;0NOT*1 1 0;0LOGICAL k;1OR;0it;0UNION;0INTEGRAL;0d*1 1 0;0tp*1 2 0;0CONTOUR*1 3 0",
  "0SURFACE*1 4 0;0VOLUME*1 5 0;0CLOCKWISE*1 6 0;1*1 4 0;0at*1 5 0;0THEREFORE;0BECAUSE;0RATIO",
  "0PROPORTION;0DOT MINUS;0EXCESS;0GEOMETRIC*1 3 0;0HOMOTHETIC;0tl op;0re tl;0in LAZY S;0SINE WAVE",
  "0WREATH PRODUCT;0NOT tl;0MINUS tl;0ASYMPTOTICALLY eq TO;0NOT*1 1 0;0APPROXIMATELY eq TO",
  "1BUT NOT ACTUALLY eq TO;0NEITHER APPROXIMATELY NOR*1 1 3;0ALMOST eq TO;0NOT*1 1 0",
  "0ALMOST eq OR eq TO;0tp tl;0ALL eq TO;0EQUIVALENT TO;0GEOMETRICALLY*1 1 0;0DIFFERENCE BETWEEN",
  "0APPROACHES THE LIMIT;0GEOMETRICALLY eq TO;0APPROXIMATELY eq TO OR THE IMAGE OF",
  "0IMAGE OF OR*1 e 0;0COLON ea;0ea COLON;0rn IN eq TO;1eq TO;0CORRESPONDS TO;0ESTIMATES",
  "0EQUIANGULAR TO;0STAR ea;0DELTA eq TO;0eq TO BY DEFINITION;0MEASURED BY;0QUESTIONED eq TO",
  "0NOT eq TO;0IDENTICAL TO;0NOT*1 1 0;0STRICTLY*1 16 0;0le*1 1a 2;0gr*1 1b 2;0le ov eq TO",
  "0gr*1 1 1;0le BUT*1 8 0;0gr*1 1 1;0MUCH le;1gr;0BETWEEN;0NOT*1 20 0;1le;1gr",
  "0NEITHER le NOR eq TO;1gr*1 1 2;0le OR*1 25 0;0gr*1 1 1;0NEITHER le NOR*1 27 0;1gr*1 1 2",
  "0le OR gr;0gr OR le;0NEITHER le NOR gr;1gr NOR le;0PRECEDES;0SUCCEEDS;0PRECEDES*1 32 2",
  "0SUCCEEDS*1 33 2;0PRECEDES*1 c 1;0SUCCEEDS*1 d 1;0DOES NOT PRECEDE;2SUCCEED;0SUBSET OF;0sr OF",
  "0NOT A*2 2 0;0SUBSET OF*1 3c 2;0sr*1 1 1;0NEITHER A SUBSET OF*1 18 2;2sr*1 1 3",
  "0SUBSET OF w*1 2a 0;0sr*1 1 1;0MULTISET;1mu;1UNION;0sq*1 3d 5;1ORIGINAL OF;1IMAGE*1 b 1",
  "1ORIGINAL*1 c 1;1CAP;1CUP;0cc pl;1MINUS;1ti;1*1 83 0;1DOT op;1rn op;1as op;1ea;1DASH;0su*3 9 1",
  "1DOT op;0r TACK;0e TACK;0dw TACK;0UP TACK;0ASSERTION;0MODELS;0TRUE;0FORCES",
  "0tp v BAR r TURNSTILE;0d v BAR d*1 1 3;0DOES NOT PROVE;0NOT TRUE;0DOES NOT FORCE;0NEGATED*1 4 0",
  "0PRECEDES UNDER RELATION;0SUCCEEDS*1 1 1;0NORMAL SUBGROUP OF;0CONTAINS AS NORMAL SUBGROUP",
  "0NORMAL SUBGROUP*1 2e 1;0CONTAINS AS NORMAL SUBGROUP*1 6b 2;0*1 26 1;0IMAGE OF;0MULTIMAP",
  "0HERMITIAN CONJUGATE MATRIX;0INTERCALATE;0XOR;0NAND;0NOR;0r ag w ARC;1tr;0N-ARY*4 99 0;0dm op",
  "0DOT op;0STAR op;0DIVISION ti;0BOWTIE;0e NORMAL FACTOR SEMIDIRECT PRODUCT;0r*1 1 1;0e*1 2 3",
  "0r*1 3 3;0re tl ea;0CURLY*1 a6 0;2k;0d SUBSET;1sr;1*2 a9 0;0PITCHFORK;0eq k*1 b0 0;0le w DOT",
  "0gr w DOT;0VERY*2 6e 0;0le eq TO OR gr;0gr eq TO OR le;0*1 1 1;3gr;3*2 64 0",
  "0DOES NOT PRECEDE OR eq;2SUCCEED OR eq;0NOT*2 51 0;0sq IMAGE OF OR*1 84 0;1ORIGINAL*1 1 2",
  "0le BUT*1 79 0;0gr*1 1 1;0PRECEDES*1 2 1;0SUCCEEDS*1 3 1;0NOT*1 38 0;0DOES NOT CONTAIN*1 38 1",
  "0NOT*1 38 0;0DOES NOT CONTAIN AS NORMAL SUBGROUP OR eq;0v ELLIPSIS;0MIDLINE*1 2a0 0",
  "0UP r da*1 2 1;0dw*1 1 1;0ELEMENT OF w ln z st;3v BAR AT END OF z st;0m*1 1 0",
  "0ELEMENT OF w DOT b;3OVERBAR;0m*1 1 0;0ELEMENT OF w un;3TWO z STROKES;0CONTAINS*2 8 2;0m*1 1 0",
  "0CONTAINS*1 7 2;0m*1 1 0;0Z NOTATION BAG MEMBERSHIP;0DIAMETER s;0ELECTRIC a;0HOUSE;0UP ar",
  "0dw ar;0PROJECTIVE;0PERSPECTIVE;0WAVY lc;0e CEILING;0r*1 1 1;0e FLOOR;0r FLOOR;0bo r CROP",
  "1e CROP;0TOP*2 2 1;0re NOT s;0sq LOZENGE;0ARC;0SEGMENT;0SECTOR;0TELEPHONE RECORDER",
  "0POSITION INDICATOR;0VIEWDATA sq;0PLACE OF INTEREST s;0tu NOT s;0WATCH;0HOURGLASS;0TOP e cd",
  "1r cd;0bo*2 2 1;0TOP hl*1 f5 0;0bo*1 1 1;0FROWN;0SMILE;0UP ar BETWEEN TWO z BARS;0OPTION KEY",
  "0ERASE TO THE r;0X IN A RECTANGLE BOX;0KEYBOARD;0lf ag br;0ri ag br;0ERASE TO THE e;0BENZENE rn",
  "0CYLINDRICITY;0ALL AROUND-PROFILE;0SYMMETRY;0TOTAL RUNOUT;0DIMENSION ORIGIN;0CONICAL TAPER",
  "0SLOPE;0COUNTERBORE;0COUNTERSINK;0APL FUNCTIONAL y I-BEAM;3SQUISH QUAD;3QUAD eq;4DIVIDE;4dm",
  "4JOT;4ci;3ci STILE;4JOT;3SLASH BAR;3BACKSLASH BAR;3QUAD SLASH;4BACKSLASH;4le;4gr;3t VANE",
  "3g VANE;3QUAD t a;4g a;3*1 256 2;3dw TACK un;3DELTA STILE;3QUAD dw CARET;4DELTA;3dw TACK JOT",
  "3up VANE;3QUAD up a;3UP TACK OVERBAR;3DEL STILE;3QUAD UP CARET;4DEL;3UP*1 7 4;3do VANE",
  "3QUAD do a;3QUOTE un;3DELTA un;3dm un;3JOT un;3ci un;3UP SHOE JOT;3QUOTE QUAD;3ci STAR",
  "3QUAD COLON;3UP TACK di;3DEL di;3STAR di;3JOT di;3ci di;3dw SHOE STILE;3e*1 1 4;3tl di;3gr di",
  "3cm BAR;3DEL tl;3ZILDE;3STILE tl;3SEMICOLON un;3QUAD NOT eq;4qe;3dw CARET tl;3UP*1 1 4;3IOTA",
  "3RHO;3OMEGA;3ALPHA un;3ep un;3IOTA un;3OMEGA un;3ALPHA;0NOT CHECK x;0r ag w*1 1cd 0",
  "0SHOULDERED oe BOX;0BELL y;0v lc w mi DOT;0INSERTION y;0CONTINUOUS UNDERLINE y",
  "0DISCONTINUOUS*1 1 1;0EMPHASIS y;0COMPOSITION y;0u sq w ce v lc;0ENTER y;0ALTERNATIVE KEY y",
  "0HELM y;0cc z BAR w NOTCH;1tr dw;0BROKEN ci w NORTHWEST a;0UNDO y;0MONOSTABLE y;0HYSTERESIS y",
  "0OPEN-CIRCUIT-OUTPUT H-TYPE y;1L-TYPE y;0PASSIVE-PULL-DOWN-OUTPUT y;0PASSIVE-PULL-UP-OUTPUT y",
  "0DIRECT CURRENT y f TWO;0SOFTWARE-FUNCTION y;0APL FUNCTIONAL y QUAD;0DECIMAL sp KEY y",
  "0PREVIOUS PAGE;0NEXT PAGE;0PRINT SCREEN y;0CLEAR*1 1 1;0e pa ue ho;2EXTENSION;2lo ho;0r*3 3 1",
  "0e sq br ue cd;3*1 6 2;3lo cd;0r*3 3 1;0e CURLY br ue ho;3mi PIECE;3lo ho;0CURLY*1 8 2;0r*3 4 1",
  "0INTEGRAL*1 12 2;0z lc*1 13 2;0ue e OR lo r CURLY br SECTION;1r OR lo e*1 1 5;0SUMMATION TOP",
  "1bo;0TOP sq br;0bo sq br;3ov*1 2 0;0RADICAL y bo;0e v BOX lc;0r*1 1 1;0z SCAN LINE-1;2LINE-3",
  "2LINE-7;2LINE-9;0DENTISTRY y li v k TOP r;5bo r;4w ci;3dw k z w ci;3UP*1 1 4;3v w tr",
  "3dw k z w tr;3UP*1 1 4;3v k WAVE;3dw k z w WAVE;3UP*1 1 4;3dw k z;3UP k z;3v k TOP e;5bo e",
  "0sq FOOT;0RETURN y;0EJECT y;0v*1 21 1;0METRICAL BREVE;1ln ov sh;1sh ov ln;1ln ov TWO SHORTS",
  "1TWO SHORTS ov ln;3JOINED;1TRISEME;1TETRASEME;1PENTASEME;0EARTH GROUND;0FUSE;0TOP pa;0bo pa",
  "0TOP CURLY br;0bo*1 1 1;0TOP TORTOISE SHELL br;0bo*1 1 1;0u TRAPEZIUM;0BENZENE rn w ci",
  "0STRAIGHTNESS;0FLATNESS;0AC CURRENT;0ELECTRICAL it;0DECIMAL EXPONENT y;0q ri d tr;1lf d tr",
  "1UP-POINTING d tr;1dn d tr;1ri d tr w v BAR;1lf*1 1 2;1ri tr w d v BAR;0ALARM CLOCK;0STOPWATCH",
  "0TIMER CLOCK;0HOURGLASS w FLOWING SAND;0q me lf tr;2ri tr;2UP-POINTING tr;2dn tr;0d v BAR",
  "0q sq FOR so;1ci FOR RECORD;0POWER y;1ON-OFF y;1ON y;1SLEEP y;0OBSERVER EYE y;0y FOR NULL",
  "2START OF HEADING;4TEXT;2END*1 1 3;4TRANSMISSION;2ENQUIRY;2ACKNOWLEDGE;2BELL;2BACKSPACE",
  "2z TABULATION;2lc FEED;2v*1 2 3;2f FEED;2CARRIAGE RETURN;2SHIFT OUT;3IN;2DATA LINK ESCAPE",
  "2DEVICE CONTROL*4 36a 1;2NEGATIVE*1 f 2;2SYNCHRONOUS IDLE;2END OF TRANSMISSION bl;2CANCEL",
  "2END OF me;2SUBSTITUTE;2ESCAPE;2FILE sp;2GROUP sp;2RECORD sp;2UNIT sp;2SPACE;2DELETE;0BLANK y",
  "0oe BOX;0y FOR NEWLINE;2DELETE f TWO;2SUBSTITUTE f TWO;2440:0OCR ho;1CHAIR;1FORK;1in FORK",
  "1BELT BUCKLE;1BOW TIE;1BRANCH BANK IDENTIFICATION;1AMOUNT OF CHECK;1DASH;1CUSTOMER ACCOUNT nu",
  "1d*1 33e 3;2460:0cc dg*9 38b 1;1nu*3 2ce 2;2THIRTEEN;2FOURTEEN;2FIFTEEN;2SIXTEEN;2SEVENTEEN",
  "2EIGHTEEN;2NINETEEN;2tw;0PARENTHESIZED*14 14 1;0dg ONE FULL so;1TWO*1 1 2;1j*1 2 2;1fo*1 3 2",
  "1fi*1 4 2;1SIX*1 5 2;1se*1 6 2;1ei*1 7 2;1ni*1 8 2;0nu TEN*1 9 2;1ELEVEN*1 a 2;1TWELVE*1 b 2",
  "1THIRTEEN*1 c 2;1FOURTEEN*1 d 2;1FIFTEEN*1 e 2;1SIXTEEN*1 f 2;1SEVENTEEN*1 f 2;1EIGHTEEN*1 f 2",
  "1NINETEEN*1 f 2;1tw*1 f 2;0PARENTHESIZED lb m l A;4B;4C;4D;4E;4F;4*8 701 3;4O;4P;4Q;4R;4S;4T;4U",
  "4V;4W;4X;4Y;4Z;0cc lb c*1a 1a 3;1*1a 34 1;1dg ze;0NEGATIVE*a 81 0;0d*a 95 0;0NEGATIVE*1 15 0"]

end Dalvik.Text
