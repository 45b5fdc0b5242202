/-!
Names of drawing characters, dingbats and other symbols. The entries are in the form that `addNames`
reads.
-/

namespace Dalvik.Text

def symbolNames : List String := [
  "2500:0BOX DRAWINGS li z;2he z;2li v;2he v;2li tp DASH z;2he*1 1 3;2li tp DASH v;2he*1 1 3",
  "2li QUADRUPLE DASH z;2he*1 1 3;2li QUADRUPLE DASH v;2he*1 1 3;2li dw k r;2dw li k r he",
  "3he k r li;2he dw k r;2li dw k e;2dw li k e he;3he k e li;2he dw k e;2li UP k r;2UP*2 8 3",
  "2he UP k r;2li UP k e;2UP*2 8 3;2he UP k e;2li v k r;2v*1 10 3;2UP he k r dw li",
  "2dw he k r UP li;2v*1 12 3;2dw li k r UP he;2UP li k r dw he;2he v k r;2li v k e;2v*1 14 3",
  "2UP he k e dw li;2dw he k e UP li;2v*1 16 3;2dw li k e UP he;2UP li k e dw he;2he v k e",
  "2li dw k z;2e*1 f 3;2r*1 8 3;2dw li k z he;3he k z li;2r*1 7 3;2e*1 10 3;2he dw k z;2li UP k z",
  "2e*1 16 3;2r*1 f 3;2UP*2 8 3;2r*1 10 3;2e*1 19 3;2he UP k z;2li v k z;2e he k r v li",
  "2r he k e v li;2v*1 10 3;2UP he k dw z li;2dw he k UP z li;2v*1 12 3;2e*1 25 2;2r*1 1e 2",
  "2e*1 26 2;2r*1 1f 2;2dw li k UP z he;2UP li k dw z he;2r li k e v he;2e li k r v he;2he v k z",
  "2li d DASH z;2he*1 1 3;2li d DASH v;2he*1 1 3;2d z;3v;2dw si k r d;3d k r si;2d dw k r",
  "2dw si k e d;3d k e si;2d dw k e;2UP*2 6 3;2d UP k r;2UP*2 6 3;2d UP k e;2v*2 c 3;2d v k r",
  "2v*2 c 3;2d v k e;2dw si k z d;3d k z si;2d dw k z;2UP*2 3 3;2d UP k z;2v*2 6 3;2d v k z",
  "2li ARC dw k r;6e;4UP k e;6r;3da ue r TO lo e;5e TO lo r;4cb;3e;3UP;3r;3dw;2he*4 4 3",
  "2li e k he r;3UP k he dw;2he e k li r;3UP k li dw;0ue hl bl;0lo ONE EIGHTH bl;2qa bl",
  "1j EIGHTHS bl;1hl bl;1fi*1 2 2;1j QUARTERS bl;1se*1 4 2;0FULL bl;0e*1 2 1;1*1 4 1;1*1 6 1",
  "1hl bl;1*1 a 1;1*1 c 1;1*1 e 1;0r hl bl;0li SHADE;0me SHADE;0DARK SHADE;0ue*1 13 1;0r*1 14 1",
  "0QUADRANT lo e;2r;1ue e;3k lo e k lo r;5r;4ue r k*2 5 1;2r;3k lo e;6k lo r;0q sq;0u sq",
  "2w ROUNDED CORNERS;2CONTAINING q m sq;0sq w z FILL;2v FILL;2ORTHOGONAL CROSSHATCH FILL",
  "2ue e TO lo r FILL;3r TO lo e FILL;2da*1 3 3;0q m sq;0u m sq;0q RECTANGLE;0u*1 1 1;0q v*1 2 1",
  "0u*1 1 1;0q PARALLELOGRAM;0u*1 1 1;0q UP-POINTING tr;0u*1 1 1;0q UP-POINTING m tr;0u*1 1 1",
  "0q ri tr;0u ri tr;0q ri m tr;0u*1 1 1;0q ri POINTER;0u*1 1 1;0q dn tr;0u dn tr;0q dn m tr",
  "0u*1 1 1;0q lf tr;0u lf tr;0q lf m tr;0u*1 1 1;0q lf*1 a 2;0u*1 1 1;0q dm;0u dm",
  "2CONTAINING q m dm;0FISHEYE;0LOZENGE;0u ci;0dd ci;0ci*1 28 1;0BULLSEYE;0q ci;0ci w e hl q",
  "2r hl q;2lo hl q;2ue hl q;3r QUADRANT q;2ALL BUT ue e*1 1 4;0e hl q ci;0r*1 1 1;0INVERSE BULLET",
  "1u ci;0ue hl*1 1 0;0lo*1 1 1;0ue e QUADRANT CIRCULAR ARC;1r*1 1 2;0lo*1 1 1;1*1 3 1;0ue hl ci",
  "0lo hl ci;0q lo r tr;2e tr;1ue e tr;2r tr;0u BULLET;0sq*2 17 1;2ue e da hl q;2lo r*1 1 4",
  "0u sq w v BISECTING lc;1UP-POINTING tr w DOT;0UP-POINTING tr*2 1d 1;0la ci",
  "0u sq w ue e QUADRANT;3lo*1 1 4;4r*1 2 5;3ue*1 1 4;1ci*4 4 2;0*2 14 1;0lo e tr;0u me sq",
  "0q me sq;0u me m sq;0q*1 1 1;0lo r tr;0q SUN w RAYS;0CLOUD;0UMBRELLA;0SNOWMAN;0COMET;0q STAR",
  "0u STAR;0LIGHTNING;0THUNDERSTORM;0SUN;0ASCENDING NODE;0DESCENDING NODE;0CONJUNCTION;0OPPOSITION",
  "0q TELEPHONE;0u*1 1 1;0BALLOT BOX;2w CHECK;3X;0SALTIRE;0UMBRELLA w RAIN DROPS;0HOT BEVERAGE",
  "0u SHOGI PIECE;0q*1 1 1;0SHAMROCK;0re ro FLORAL HEART BULLET;0q e po id;1r po id;0u*1 2 1",
  "1UP po id;1r po id;1dw po id;0SKULL k CROSSBONES;0CAUTION s;0RADIOACTIVE s;0BIOHAZARD s",
  "0CADUCEUS;0ANKH;0ORTHODOX cb;0CHI RHO;0cb OF LORRAINE;2JERUSALEM;0STAR k CRESCENT;0FARSI y",
  "0ADI SHAKTI;0HAMMER k SICKLE;0PEACE y;0YIN YANG;0TRIGRAM FOR HEAVEN;2LAKE;2FIRE;2THUNDER;2WIND",
  "2WATER;2MOUNTAIN;2EARTH;0WHEEL OF DHARMA;0u FROWNING fa;1SMILING fa;0q*1 1 1;0u*1 3c 1",
  "0FIRST qa MOON;0LAST*1 1 1;0MERCURY;0FEMALE s;0EARTH;0MALE s;0JUPITER;0SATURN;0URANUS;0NEPTUNE",
  "0PLUTO;0ARIES;0TAURUS;0GEMINI;0CANCER;0LEO;0VIRGO;0LIBRA;0SCORPIUS;0SAGITTARIUS;0CAPRICORN",
  "0AQUARIUS;0PISCES;0u CHESS KING;2QUEEN;2ROOK;2BISHOP;2KNIGHT;2PAWN;0q*6 6 1;1SPADE SUIT",
  "0u HEART SUIT;1dm SUIT;0q CLUB SUIT;0u*1 4 1;0q*2 4 1;0u*1 4 1;0HOT SPRINGS;0qa NOTE",
  "0EIGHTH NOTE;0BEAMED EIGHTH NOTES;1SIXTEENTH NOTES;0MUSIC FLAT s;1NATURAL s;1SHARP s",
  "0WEST SYRIAC cb;0es*1 1 1;0UNIVERSAL RECYCLING y;0RECYCLING y FOR TYPE-1 PLASTICS;3TYPE-2*1 1 4",
  "3TYPE-3*1 2 4;3TYPE-4*1 3 4;3TYPE-5*1 4 4;3TYPE-6*1 5 4;3TYPE-7*1 6 4;3GENERIC MATERIALS",
  "0q*1 9 0;0RECYCLED PAPER y;0PARTIALLY-RECYCLED*1 1 1;0PERMANENT PAPER s;0WHEELCHAIR y",
  "0DIE FACE-1;+5;0u ci w DOT r;3TWO dt;0q ci w u DOT r;3TWO u dt;0MONOGRAM FOR YANG;2YIN",
  "0DIGRAM FOR GREATER YANG;2LESSER YIN;3YANG;2GREATER YIN;0u FLAG;0q FLAG;0HAMMER k PICK;0ANCHOR",
  "0CROSSED SWORDS;0STAFF OF AESCULAPIUS;0SCALES;0ALEMBIC;0FLOWER;0GEAR;0STAFF OF HERMES;0ATOM y",
  "0FLEUR-DE-LIS;0OUTLINED u STAR;0j LINES CONVERGING r;3e;0WARNING s;0hg VOLTAGE s",
  "0DOUBLED*1 62 0;1MALE s;0INTERLOCKED FEMALE k MALE s;0MALE k*1 65 0;1w st s;3k*1 2 0;0v*1 2 0",
  "0z*1 3 0;0me u ci;1q ci;1m u ci;0MARRIAGE y;0DIVORCE y;0UNMARRIED PARTNERSHIP y;0COFFIN",
  "0FUNERAL URN;0NEUTER;0CERES;0PALLAS;0JUNO;0VESTA;0CHIRON;0q MOON LILITH;0SEXTILE;0SEMISEXTILE",
  "0QUINCUNX;0SESQUIQUADRATE;0SOCCER BALL;0BASEBALL;0su KEY;0u DRAUGHTS MAN;2KING;0q*2 2 1",
  "0SNOWMAN WITHOUT SNOW;0SUN BEHIND CLOUD;0RAIN;0q SNOWMAN;0THUNDER CLOUD k RAIN;0tu*2 b3 0",
  "0u dm IN sq;0cs LANES;0DISABLED CAR;0OPHIUCHUS;0PICK;0CAR SLIDING;0HELMET w u cb;0cc*1 6 0",
  "0CHAINS;0NO ENTRY;0aa ONE-WAY e WAY TRAFFIC;0q TWO-WAY*1 1 2;0u*1 1 1;0q e LANE MERGE;0u*1 1 1",
  "0DRIVE SLOW s;0he u dn tr;0e cl ENTRY;0su SALTIRE;0FALLING da IN u ci IN q sq;0q TRUCK",
  "0RESTRICTED e ENTRY-1;+1;0ASTRONOMICAL y FOR URANUS;0he ci w st k TWO dt b;0PENTAGRAM",
  "0RIGHT-HANDED INTERLACED*1 1 0;0LEFT-HANDED*1 1 1;0in*1 3 0;0q cb ON SHIELD;0SHINTO SHRINE",
  "0CHURCH;0CASTLE;0HISTORIC SITE;0GEAR WITHOUT HUB;1w HANDLES;0MAP y FOR LIGHTHOUSE;0MOUNTAIN",
  "0UMBRELLA ON GROUND;0FOUNTAIN;0FLAG IN HOLE;0FERRY;0SAILBOAT;0sq fo CORNERS;0SKIER;0ICE SKATE",
  "0PERSON w BALL;0TENT;0JAPANESE BANK y;0HEADSTONE GRAVEYARD y;0FUEL PUMP;0CUP ON q sq",
  "0u FLAG w z mi q STRIPE;0q SAFETY SCISSORS;0ue BLADE*1 1 2;0q*1 2 2;0lo*1 2 1;0u*1 4 2",
  "1he CHECK x;0TELEPHONE LOCATION s;0TAPE DRIVE;0AIRPLANE;0ENVELOPE;0RAISED FIST;1HAND",
  "0VICTORY HAND;0WRITING HAND;0lo r PENCIL;0PENCIL;0ue*1 2 1;0u NIB;0q NIB;0CHECK x;0*1 f 1;0mu X",
  "0he mu X;0BALLOT X;0he*1 1 0;0OUTLINED GREEK cb;0he*1 1 1;0oe ce cb;0he*1 1 0;0lb cb",
  "0SHADOWED u lb cb;0OUTLINED lb cb;0MALTESE cb;0STAR OF DAVID;0fo TEARDROP-SPOKED as",
  "1BALLOON-SPOKED as;0he*1 1 0;0fo CLUB-SPOKED as;0q fo pi STAR;0u*1 1 1;0SPARKLES;0STRESS*1 8c 0",
  "0cc u STAR;0oe ce q STAR;0q ce u STAR;0OUTLINED q STAR;0he*1 1 0;0PINWHEEL STAR",
  "0SHADOWED u STAR;0he as;0oe ce as;0ei SPOKED as;1pi q STAR;2*1 6 0;0SIX*1 2 1",
  "0ei pi RECTILINEAR q STAR;0he*1 1 0;0TWELVE*1 5 1;0SIXTEEN pi as;0*1 19 1;0oe ce*1 1a 1",
  "0he*1 1b 1;0SIX PETALLED q k u FLORETTE;0q*1 1 5;0*1 2 4;0ei PETALLED OUTLINED*1 2 0",
  "0cc oe ce ei pi STAR;0he TEARDROP-SPOKED PINWHEEL as;0SNOWFLAKE;0TIGHT TRIFOLIATE*1 1 0",
  "0he CHEVRON*1 2 0;0SPARKLE;0he*1 1 0;0*1 26 1;0ei TEARDROP-SPOKED PROPELLER as;0he*1 1 0;0cb x",
  "0SHADOWED u ci;0NEGATIVE su cb x;0lo r DROP-SHADOWED u sq;0ue*1 1 1;0lo r SHADOWED u sq",
  "0ue*1 1 1;0q qe x or;0u*1 1 1;1ex x or;0q dm MINUS u X;0he ex x y;0li v BAR;0me v BAR;0he v BAR",
  "1si tu cm qu x or;2*1 1 3;1d*2 2 2;1LOW*1 3 1;2d*1 5 3;0CURVED STEM PARAGRAPH s or;0he*1 d 1",
  "1HEART*1 e 1;1q HEART;0ro he q*1 14c 3;0FLORAL HEART;0*1 14e 1;0me e pa or;1r pa or",
  "1FLATTENED*2 2 1;1lf ag br or;1ri*1 1 2;0he lf ag*1 f 4;1ri*1 1 2;1*2 4 1",
  "0li e TORTOISE SHELL br or;1r*1 1 2;0me e CURLY br or;1r*1 1 2;0DINGBAT NEGATIVE cc dg ONE;4TWO",
  "4j;4fo;4fi;4SIX;4se;4ei;4ni;3nu TEN;1cc sa*a a 3;1NEGATIVE*a a 1;0he WIDE-HEADED g a;1pl s",
  "1MINUS s;1DIVISION s;1sb es a;1g a;1no es a;0DRAFTING POINT g a;0he ROUND-TIPPED g a;0o g a",
  "0he o g a;0DASHED o g a;0he*1 1 0;0q g a;0THREE-D TOP-LIGHTED g ar;1BOTTOM-LIGHTED g ar;0q g ar",
  "0he q CURVED do k g a;3up k g a;0SQUAT q g a;0he CONCAVE-POINTED q g a;0RIGHT-SHADED u g a",
  "0LEFT-SHADED u g a;0BACK-TILTED SHADOWED u g a;0FRONT-TILTED*1 1 1;0he lo RIGHT-SHADOWED u g a",
  "1ue*1 1 2;0NOTCHED*1 2 1;0CURLY LOOP;0NOTCHED*1 3 1;0cc he u g a;0WHITE-FEATHERED g a",
  "0BLACK-FEATHERED*3 1c 1;0he*3 3 0;0TEARDROP-BARBED g a;0he TEARDROP-SHANKED g a",
  "0WEDGE-TAILED g a;0he*1 1 0;0OPEN-OUTLINED g a;0d*1 f 0;0j DIMENSIONAL ag",
  "0u tr CONTAINING m u tr;0PERPENDICULAR;0oe SUBSET;1sr;0e S-SHAPED BAG DELIMITER;0r*1 1 1",
  "0OR w DOT INSIDE;0REVERSE SOLIDUS PRECEDING SUBSET;0sr PRECEDING SOLIDUS;0v BAR w z st",
  "0MATHEMATICAL RISING da;0ln DIVISION;0MATHEMATICAL FALLING da;0su LOGICAL k;2OR",
  "0u dm w CENTRED DOT;0k w DOT;0ELEMENT OF OPENING up;0lo r cd w DOT;0ue e*1 1 2;0e OUTER JOIN",
  "0r*1 1 1;0FULL*1 2 1;0la UP TACK;1dw TACK;0e k r d TURNSTILE;3TACK;1MULTIMAP;0ln r TACK;1e TACK",
  "0UP TACK w ci b;0LOZENGE DIVIDED BY z RULE;0u CONCAVE-SIDED dm;3w t TICK;4g TICK;1sq*2 2 3",
  "0MATHEMATICAL e u sq br;1r*1 1 2;1e ag br;1r ag br;1e d ag br;1r*1 1 2;1e u TORTOISE SHELL br",
  "1r*1 1 2;1e FLATTENED pa;1r*1 1 2;0up QUADRUPLE a;0do*1 1 1;0at GAPPED ci a;0CLOCKWISE*1 1 1",
  "0r a w cc pl;0ln t a;1g a;1e r a;1t d a;1g d a;1e r d a;1t a FROM BAR;1g*1 1 2;1t d*1 2 2",
  "1g*1 1 2;2SQUIGGLE a;0BRAILLE PATTERN BLANK;2DOTS-1;+1;2DOTS-12;2DOTS-3;2DOTS-13;2DOTS-23",
  "2DOTS-123;2DOTS-4;2DOTS-14;2DOTS-24;2DOTS-124;2DOTS-34;2DOTS-134;2DOTS-234;2DOTS-1234;2DOTS-5",
  "2DOTS-15;2DOTS-25;2DOTS-125;2DOTS-35;2DOTS-135;2DOTS-235;2DOTS-1235;2DOTS-45;2DOTS-145",
  "2DOTS-245;2DOTS-1245;2DOTS-345;2DOTS-1345;2DOTS-2345;2DOTS-12345;2DOTS-6;2DOTS-16;2DOTS-26",
  "2DOTS-126;2DOTS-36;2DOTS-136;2DOTS-236;2DOTS-1236;2DOTS-46;2DOTS-146;2DOTS-246;2DOTS-1246",
  "2DOTS-346;2DOTS-1346;2DOTS-2346;2DOTS-12346;2DOTS-56;2DOTS-156;2DOTS-256;2DOTS-1256;2DOTS-356",
  "2DOTS-1356;2DOTS-2356;2DOTS-12356;2DOTS-456;2DOTS-1456;2DOTS-2456;2DOTS-12456;2DOTS-3456",
  "2DOTS-13456;2DOTS-23456;2DOTS-123456;2DOTS-7;2DOTS-17;2DOTS-27;2DOTS-127;2DOTS-37;2DOTS-137",
  "2DOTS-237;2DOTS-1237;2DOTS-47;2DOTS-147;2DOTS-247;2DOTS-1247;2DOTS-347;2DOTS-1347;2DOTS-2347",
  "2DOTS-12347;2DOTS-57;2DOTS-157;2DOTS-257;2DOTS-1257;2DOTS-357;2DOTS-1357;2DOTS-2357;2DOTS-12357",
  "2DOTS-457;2DOTS-1457;2DOTS-2457;2DOTS-12457;2DOTS-3457;2DOTS-13457;2DOTS-23457;2DOTS-123457",
  "2DOTS-67;2DOTS-167;2DOTS-267;2DOTS-1267;2DOTS-367;2DOTS-1367;2DOTS-2367;2DOTS-12367;2DOTS-467",
  "2DOTS-1467;2DOTS-2467;2DOTS-12467;2DOTS-3467;2DOTS-13467;2DOTS-23467;2DOTS-123467;2DOTS-567",
  "2DOTS-1567;2DOTS-2567;2DOTS-12567;2DOTS-3567;2DOTS-13567;2DOTS-23567;2DOTS-123567;2DOTS-4567",
  "2DOTS-14567;2DOTS-24567;2DOTS-124567;2DOTS-34567;2DOTS-134567;2DOTS-234567;2DOTS-1234567",
  "2DOTS-8;2DOTS-18;2DOTS-28;2DOTS-128;2DOTS-38;2DOTS-138;2DOTS-238;2DOTS-1238;2DOTS-48;2DOTS-148",
  "2DOTS-248;2DOTS-1248;2DOTS-348;2DOTS-1348;2DOTS-2348;2DOTS-12348;2DOTS-58;2DOTS-158;2DOTS-258",
  "2DOTS-1258;2DOTS-358;2DOTS-1358;2DOTS-2358;2DOTS-12358;2DOTS-458;2DOTS-1458;2DOTS-2458",
  "2DOTS-12458;2DOTS-3458;2DOTS-13458;2DOTS-23458;2DOTS-123458;2DOTS-68;2DOTS-168;2DOTS-268",
  "2DOTS-1268;2DOTS-368;2DOTS-1368;2DOTS-2368;2DOTS-12368;2DOTS-468;2DOTS-1468;2DOTS-2468",
  "2DOTS-12468;2DOTS-3468;2DOTS-13468;2DOTS-23468;2DOTS-123468;2DOTS-568;2DOTS-1568;2DOTS-2568",
  "2DOTS-12568;2DOTS-3568;2DOTS-13568;2DOTS-23568;2DOTS-123568;2DOTS-4568;2DOTS-14568;2DOTS-24568",
  "2DOTS-124568;2DOTS-34568;2DOTS-134568;2DOTS-234568;2DOTS-1234568;2DOTS-78;2DOTS-178;2DOTS-278",
  "2DOTS-1278;2DOTS-378;2DOTS-1378;2DOTS-2378;2DOTS-12378;2DOTS-478;2DOTS-1478;2DOTS-2478",
  "2DOTS-12478;2DOTS-3478;2DOTS-13478;2DOTS-23478;2DOTS-123478;2DOTS-578;2DOTS-1578;2DOTS-2578",
  "2DOTS-12578;2DOTS-3578;2DOTS-13578;2DOTS-23578;2DOTS-123578;2DOTS-4578;2DOTS-14578;2DOTS-24578",
  "2DOTS-124578;2DOTS-34578;2DOTS-134578;2DOTS-234578;2DOTS-1234578;2DOTS-678;2DOTS-1678",
  "2DOTS-2678;2DOTS-12678;2DOTS-3678;2DOTS-13678;2DOTS-23678;2DOTS-123678;2DOTS-4678;2DOTS-14678",
  "2DOTS-24678;2DOTS-124678;2DOTS-34678;2DOTS-134678;2DOTS-234678;2DOTS-1234678;2DOTS-5678",
  "2DOTS-15678;2DOTS-25678;2DOTS-125678;2DOTS-35678;2DOTS-135678;2DOTS-235678;2DOTS-1235678",
  "2DOTS-45678;2DOTS-145678;2DOTS-245678;2DOTS-1245678;2DOTS-345678;2DOTS-1345678;2DOTS-2345678",
  "2DOTS-12345678;0g TWO-HEADED a w v st;4d v st;0t d*1 2 2;0g*1 1 1;0e r*1 2 1",
  "0g TWO-HEADED*1 10a 2;0*2 109 1;0do a w z st;0up*1 1 1;1tp a;0do tp a;0t d DASH a;0g*1 1 1",
  "0t tp DASH a;0g*1 1 1;1TWO-HEADED*1 2 1;1a w dd STEM;0up a TO BAR;0do*1 1 1;0g a w TAIL*2 14 3",
  "1TWO-HEADED a w TAIL;5*2 17 3;0t ARROW-TAIL;0g*1 1 1;0t d*1 2 1;0g*1 1 1;0t a TO q dm;0g*1 1 1",
  "0t a FROM BAR*1 2 2;0g*1 1 1;0no WEST k sb es a;1es k sb WEST a;1WEST a w ho;1es a w ho",
  "0sb*1 1 1;1*1 3 1;0no WEST a k no es a;1es a*1 7 2;0sb es a*1 7 2;1WEST a k no WEST a",
  "0RISING da cs*1 15e 1;0FALLING da cs*1 161 1;0sb es a cs*1 6 4;0no es a cs*1 d 3",
  "0FALLING da*1 2 3;0RISING da*1 2 3;0no es a cs*1 7 4;1WEST*1 5 2;0WAVE a po DIRECTLY r",
  "0a po g THEN CURVING up;5do;2do THEN CURVING t;5g;0RIGHT-SIDE ARC CLOCKWISE a",
  "0LEFT-SIDE ARC at a;0TOP*1 1 1;0bo*1 2 1;0TOP ARC CLOCKWISE a w MINUS;2at a w pl",
  "0lo r SEMICIRCULAR*1 6 2;1e SEMICIRCULAR at a;0at cl ci a;0CLOCKWISE*1 1 1;0g a b sh t a",
  "0t a b sh g a;0sh g a b t a;0g a w pl p;0t*1 1 1;0g a THROUGH X;0e r a THROUGH m ci",
  "0up TWO-HEADED a FROM m ci;0e ba UP r ba dw ha;2dw r ba UP ha;0UP ba r dw ba e ha;2e dw ba r ha",
  "0e ba UP*1 3 3;0UP ba r*1 2 3;0e ba dw*1 6 3;0UP ba e*1 5 3;0t ha w ba UP TO BAR;0g*1 1 1",
  "0up ha w ba r TO BAR;0do*1 1 1;0t ha w ba dw TO BAR;0g*1 1 1;0up ha w ba e TO BAR;0do*1 1 1",
  "0t ha w ba UP*1 55 3;0g*1 1 1;0up ha w ba r*1 57 3;0do*1 1 1;0t ha w ba dw*1 59 3;0g*1 1 1",
  "0up ha w ba e*1 5b 3;0do*1 1 1;0t ha w ba UP b t ha w ba dw;0up ha w ba e BESIDE up ha w ba r",
  "0g ha w ba UP b g*1 2 7;0do ha w ba e BESIDE do*1 2 7;0t ha w ba UP b g ha w ba UP;4dw*1 3 5",
  "0g ha w ba UP b t*1 2 7;4dw*1 7 5;0t ha w ba UP b ln DASH;4dw p*1 1 6;0g*2 2 1;0up*1 9 1",
  "0do*1 c 1;0r d a w ROUNDED HEAD;0ea s b g a;0tl op b g a;0t a b tl op;0g*1 1 1;3ALMOST eq TO",
  "0le b t a;0t a THROUGH le;0gr b g a;0SUBSET b g a;0t a THROUGH SUBSET;0sr b t a;0e FISH TAIL",
  "0r*1 1 1;0UP*1 2 1;0dw*1 3 1;0tp v BAR*1 1bb 3;0Z NOTATION SPOT;2TYPE COLON;0e u CURLY br",
  "0r*1 1 1;0e u pa;0r u pa;0Z NOTATION e IMAGE br;2r*1 1 3;2e BINDING br;2r*1 1 3;0e sq br w un",
  "0r*1 1 1;0e sq br w TICK IN TOP cd;0r sq br w TICK IN bo cd;0e*1 1 1;0r*1 3 1;0e ag br w DOT",
  "0r*1 1 1;0e ARC le br;0r ARC gr br;0d e*1 1 1;1r*1 3 1;0e q*1 1ab 3;0r*1 1 1;0dd FENCE",
  "0v ZIGZAG lc;0MEASURED ag OPENING e;0r ag VARIANT w sq;0MEASURED r ag w DOT;0ag w S INSIDE",
  "0ac ag;0SPHERICAL*1 5 1;3UP;0tu ag;0re ag;0ag w un;0re*1 1 0;0OBLIQUE*1 5 1;3dw",
  "0MEASURED ag w oe ARM ENDING IN a po UP k r;be;9dw k r;be;9r k UP;9e k UP;9r k dw;9e k dw",
  "0re EMPTY SET;0EMPTY SET w OVERBAR;3m ci b;3r a b;3e a b;0ci w z BAR;0cc v BAR;1PARALLEL",
  "1REVERSE SOLIDUS;1*1 1f7 0;0ci DIVIDED BY z BAR k TOP hl DIVIDED BY v BAR;1w SUPERIMPOSED X",
  "0cc ANTICLOCKWISE-ROTATED*1 225 1;0UP a THROUGH ci;0cc u BULLET;1BULLET;1le;1gr",
  "0ci w m ci TO THE r;2TWO z STROKES*1 1 4;0su RISING da SLASH;1FALLING*1 1 2;1as;1m ci;1sq",
  "0TWO JOINED SQUARES;0tr w DOT b;2un;0S IN tr;0tr w SERIFS AT bo;0r tr b e tr;0e tr BESIDE v BAR",
  "0v BAR BESIDE r tr;0BOWTIE*2 401 1;0q BOWTIE;0ti*2 3 1;0u HOURGLASS;0q*1 1 1;0e WIGGLY FENCE",
  "0r*1 1 1;0e d*1 2 1;0r*1 1 1;0INCOMPLETE INFINITY;0TIE ov*1 1 1;0INFINITY NEGATED w v BAR",
  "0DOUBLE-ENDED MULTIMAP;0sq w CONTOURED OUTLINE;0INCREASES AS;0SHUFFLE PRODUCT",
  "0ea s k SLANTED*1 2c 1;5w tl b;0IDENTICAL TO*1 2 2;0GLEICH STARK;0THERMODYNAMIC;0dn*2 3fb 1",
  "0q dm w dw a;1LOZENGE;0u ci w dw a;0q*1 1 1;0ERROR-BARRED u sq;1q sq;1u dm;1q dm;1*2 348 1",
  "0RULE-DELAYED;0REVERSE SOLIDUS op;0SOLIDUS*1 45 2;0REVERSE SOLIDUS w z st;0BIG SOLIDUS;1*1 41 1",
  "0d pl;0tp pl;0lf CURVED ag br;0ri*1 1 1;0TINY;0MINY;0N-ARY cc DOT op;2pl op;2ti op",
  "1UNION op w DOT;4pl;1sq it op;2UNION op;0TWO LOGICAL k op;2OR op;0N-ARY ti op;0MODULO TWO SUM",
  "0SUMMATION w INTEGRAL;0QUADRUPLE INTEGRAL op;0FINITE PART*1 2 2;0INTEGRAL w d st",
  "1AVERAGE w SLASH;0CIRCULATION FUNCTION;0at INTEGRATION",
  "0lc INTEGRATION w RECTANGULAR PATH AROUND POLE;3SEMICIRCULAR*1 1 4;2NOT INCLUDING THE POLE",
  "0INTEGRAL AROUND A POINT op;0QUATERNION*1 a 1;0INTEGRAL w t a w ho;2ti s;2it;2UNION;2OVERBAR",
  "2un;0JOIN;0la e tr op;0Z NOTATION SCHEMA COMPOSITION;3PIPING;3PROJECTION;0pl s*1 70 2;3cr ad b",
  "3tl b;3DOT p;3tl p;3SUBSCRIPT TWO;3q tr;0MINUS s w cm b;3DOT p;3FALLING dt;3RISING dt",
  "0pl s IN e hl ci;3r hl ci;0VECTOR OR cb PRODUCT;0mu s*2 66 1;0SEMIDIRECT PRODUCT w bo cl",
  "0SMASH*1 4 3;0mu*2 7 1;0cc mu s w cr ad;0mu s IN d ci;0cc*1 2a1 1;0pl s IN tr;0MINUS*1 1 1",
  "0mu*1 2 1;0INTERIOR*1 d 3;0RIGHTHAND*1 1 0;0Z NOTATION RELATIONAL*1 1f 3",
  "0AMALGAMATION OR COPRODUCT;0it w DOT;0UNION w MINUS s;2OVERBAR;0it*1 92 2;2LOGICAL k",
  "0UNION w*1 276 1;1b it;0it b UNION;0UNION b BAR b it;0it b BAR*1 2 1",
  "0UNION BESIDE k JOINED w UNION;0it BESIDE k JOINED w it;0cl UNION w SERIFS;1it*1 1 2",
  "0d sq*2 35 2;0cl UNION w SERIFS k*1 1d 0;0LOGICAL k w DOT b;1OR*1 1 2;0d*2 285 1",
  "0TWO INTERSECTING*2 2 1;0SLOPING la OR;2k;0LOGICAL OR OVERLAPPING*1 6 1;1k w mi STEM;1OR*1 1 2",
  "1k w z DASH;1OR*1 1 2;1k w d OVERBAR;3un;3d un;0m VEE w un;0LOGICAL OR w d*2 47 2",
  "0Z NOTATION DOMAIN ANTIRESTRICTION;2RANGE*1 1 3;0ea*1 41 1;0IDENTICAL w DOT b",
  "0tp z BAR w d v st;4tp v st;0tl op*1 3 1;2*1 3f 2;0SIMILAR MINUS SIMILAR;0CONGRUENT*1 6 1",
  "0ea w as;0ALMOST eq TO w cr ad;0APPROXIMATELY eq OR eq TO;0ea s b pl s;0pl s b ea s",
  "0ea s b tl op;0d COLON eq;0TWO CONSECUTIVE ea SIGNS;0j*1 1 1;0ea s w TWO dt b k TWO dt p",
  "0EQUIVALENT w fo dt b;0le w ci INSIDE;0gr*1 1 1;0le w qe x b;0gr*1 1 1;0le OR SLANTED eq TO",
  "0gr*1 1 1;0le OR SLANTED eq TO*1 2b8 1;0gr*1 1 1;0le OR SLANTED eq TO w DOT b;0gr*1 1 1",
  "0le OR SLANTED eq TO w DOT b r;0gr OR SLANTED eq TO w DOT b e;0le OR APPROXIMATE;0gr*1 1 1",
  "0le k SINGLE-LINE NOT eq TO;0gr*1 1 1;0le k NOT*1 4 2;0gr*1 1 1;0le b DOUBLE-LINE eq b gr",
  "0gr b DOUBLE-LINE eq b le;0le b SIMILAR OR eq;0gr*1 1 1;0le b SIMILAR b gr;0gr b SIMILAR b le",
  "0le b gr b DOUBLE-LINE eq;0gr b le*1 1 3;0le b SLANTED eq b gr b SLANTED eq",
  "0gr b SLANTED eq b le*1 1 6;0SLANTED eq TO OR le;4gr;4le*1 2d0 1;4gr*1 1 5;0DOUBLE-LINE*2 4 1",
  "1*2 6 0;0SIMILAR*2 8 3;1b le b ea s;2gr b ea s;0d NESTED le;2gr;2le w un;0gr OVERLAPPING le",
  "1BESIDE le;0le cl BY CURVE;0gr*1 1 1;0le cl BY CURVE*1 15 6;0gr*1 1 1;0SMALLER THAN",
  "0LARGER THAN;0SMALLER THAN*1 3c 2;0LARGER*1 1 1;0ea s w BUMPY b;0PRECEDES b SINGLE-LINE ea s",
  "0SUCCEEDS*1 1 1;0PRECEDES b*1 2a 2;0SUCCEEDS*1 1 1;0PRECEDES b ea s;0SUCCEEDS b ea s",
  "0PRECEDES b*1 2e 3;0SUCCEEDS*1 1 1;0PRECEDES*1 142 2;0SUCCEEDS*1 1 1;0PRECEDES b NOT*1 2 2",
  "0SUCCEEDS*1 1 1;0d PRECEDES;1SUCCEEDS;0SUBSET w DOT;0sr w DOT;0SUBSET w pl s p;0sr*1 1 1",
  "0SUBSET w mu s p;0sr*1 1 1;0SUBSET OF OR*1 42 3;0sr*1 1 1;0SUBSET OF b ea s;0sr*1 1 1",
  "0SUBSET OF b tl op;0sr*1 1 1;0SUBSET OF*1 154 2;0sr*1 1 1;0SUBSET OF*1 16 1;0sr*1 1 1",
  "0sq e oe BOX op;1r*1 1 2;0cl*2 30c 1;1SUBSET*1 61 2;1sr*1 62 2;0SUBSET b sr;0sr b SUBSET",
  "0SUBSET*1 1 1;0sr b sr;1BESIDE SUBSET;2k JOINED BY DASH w SUBSET;0ELEMENT OF OPENING do",
  "0PITCHFORK w TEE TOP;0TRANSVERSAL it;0FORKING;0NONFORKING;0sh e TACK;1dw TACK;1UP TACK",
  "0PERPENDICULAR w S;0v BAR tp r*1 308 4;0d v BAR e*1 1 4;0v BAR d*1 1 3;0d*1 1 0",
  "0ln DASH FROM e MEMBER OF d v;0sh dw TACK*1 136 2;1UP TACK w un;3b*1 a 0;0d*2 b 1;1st NOT s",
  "0re*1 1 0;0DOES NOT DIVIDE w re NEGATION SLASH;0v lc w ci b;4p;0dw TACK w ci p;0PARALLEL w z st",
  "2tl op;0tp v BAR BINARY RELATION;3w z st;1COLON op;1*2 56 1;0DOUBLE-LINE SLANTED le*1 89 2",
  "2gr*1 8a 2;0tp SOLIDUS*1 7 3;0la tp v BAR op;0d*1 108 1;0u v BAR;0N-ARY*1 1 0;0no es u a",
  "1WEST u a;0sb*2 2 1;0e r u a;0t q a;0up q a;0do q a;0no es q a;1WEST q a;0sb*2 2 1;0e r q a",
  "0UP dw q a;0g a w TIP do;4up;0t*2 2 1;0sq w TOP hl q;2bo hl q;2ue*1 52a 3;2lo*1 52c 3",
  "0dm*2 546 1;1*2 6 1;0dd sq;0q la sq;0u la sq;0q VERY m sq;0u*1 1 1;0q PENTAGON;0u*1 1 1",
  "1HEXAGON;0q*1 1 1;0z*1 1 0;0q la ci;1me dm;0u me dm;0q me LOZENGE;0u*1 1 1;0q m dm;2LOZENGE",
  "0u*1 1 1;0q z ELLIPSE;0u*1 1 1;0q v*1 2 2;0u*1 1 1;0e a w m ci;0j t ARROWS;0e*1 33e 1",
  "0ln t*1 334 2;0t*2 234 1;3FROM BAR;1*2 227 1;1*5 225 1;1*1 1f7 1;0WAVE a po DIRECTLY e",
  "0ea s b t a;0REVERSE tl op b t a;0t a b REVERSE*1 1cd 3;0g a THROUGH gr;3sr;0t*1 355 1;0g*1 1 1",
  "0REVERSE*1 1d5 0;0g*1 6 1;0*1 8 1;0t*1 1d5 1;3REVERSE tl op;0g*1 1 1;0do o ZIGZAG a",
  "0sh SLANTED no a;1BACKSLANTED sb a;0u me STAR;0q m STAR;0u m STAR;0q ri*1 34 1;0u*1 1 1",
  "0he la ci;1OVAL w OVAL INSIDE;1ci*1 de 1;1ci;1cc SALTIRE;0SLANTED no a w HOOKED HEAD",
  "0BACKSLANTED sb a w HOOKED TAIL;0SLANTED no a w z TAIL;0BACKSLANTED sb*1 1 2",
  "0BENT a po do THEN no es;0sh*1 1 0;0t o a;0up o a;0g o a;0do o a;0e r o a;0UP dw o a",
  "0no WEST o a;1es o a;0sb es o a;1*1 3 1;0t o DASHED a;0up*1 1 1;0g*1 2 1;0do*1 3 1",
  "0CLOCKWISE o oe ci a;0at*1 1 1;0t o a TO BAR;0up*1 1 1;0g*1 2 1;0do*1 3 1;2b76:0no WEST*1 4 1",
  "1es*1 5 1;0sb*1 1 1;1*1 3 1;0t o a w d z st;0up*1 1 1;0g*1 2 1;0do*1 3 1;0z TAB KEY;0v*1 1 1",
  "0t o a ov g o a;0up o a t OF do o a;0g o a ov t o a;0do o a t OF up o a;0t o PAIRED ARROWS",
  "0up*1 1 1;0g*1 2 1;0do*1 3 1;0t q cc u a;0up*1 1 1;0g*1 2 1;0do*1 3 1;0at o r U-SHAPED a",
  "2bo*1 1 3;2e*1 2 3;2TOP*1 3 3;0RETURN e;1r;0NEWLINE e;1r;0fo cd ARROWS CIRCLING at;0g q a",
  "2b97:0y FOR TYPE A ELECTRONICS;0THREE-D TOP-LIGHTED t eu ar;1RIGHT-LIGHTED up eu ar",
  "1TOP-LIGHTED g eu ar;1LEFT-LIGHTED do eu ar;0q*1 4 2;1*1 4 2;1g eu ar;1*1 4 2",
  "0do o a w ln TIP t;6g;0up*2 2 1;0t o a w ln TIP up;0g*1 1 1;0t o a w ln TIP do;0g*1 1 1",
  "0q CURVED do k t a;4g a;2up*2 2 3;2t k up a;2g k up a;2t k do a;2g k do a;0RIBBON a dw e;3r",
  "2UP e;3r;2e UP;2r UP;2e dw;2r dw;0up u a FROM BAR w z BAR;0UP ar IN A RECTANGLE BOX",
  "0OVERLAPPING u SQUARES;2k q*1 1 2;1q*1 2 2;0BALLOT BOX w li X;0cc X;1BOLD X;0q sq CENTRED",
  "1dm*1 1 2;0tu*1 a0 0;0z q OCTAGON;0*1 1 1;1me UP-POINTING tr*1 5 2;2dn*1 1 3;2lf*1 2 3",
  "2ri*1 3 3;0NEPTUNE f TWO;0TOP hl q ci;0bo*1 1 1;0li fo pi q CUSP;0ro*1 1 0;0u fo pi CUSP",
  "0ro*1 1 0;0sq POSITION INDICATOR;0UNCERTAINTY s;0GROUP x;0PLUTO f*4 459 4;0TRANSPLUTO",
  "0PROSERPINA;0ASTRAEA;0HYGIEA;0PHOLUS;0NESSUS;0u MOON SELENA;0q dm ON cb;0TRUE li MOON ARTA",
  "0CUPIDO;0HADES;0ZEUS;0KRONOS;0APOLLON;0ADMETOS;0VULCANUS;0POSEIDON;0e hl q STAR;0r*1 1 1",
  "0STAR*2 617 1;0t TWO-HEADED a w tr ARROWHEADS;0up*1 1 1;0g*1 2 1;0do*1 3 1;0ERIS f ONE;2TWO",
  "0SEDNA;0RUSSIAN ASTROLOGICAL y VIGINTILE;3NOVILE;3QUINTILE;3BINOVILE;3SENTAGON;3TREDECILE",
  "0ea s w INFINITY p;0UNITED y;0SEPARATED y;0DOUBLED y;0PASSED y;0re r ag;0HELLSCHREIBER PAUSE y"]

end Dalvik.Text
