/-!
Names of the characters of musical and mathematical notation. The entries are in the form that
`addNames` reads.
-/

namespace Dalvik.Text

def notationNames : List String := [
  "1d000:0BYZANTINE MUSICAL y ps;3DASEIA;3pe;3OXEIA EKFONITIKON;4DIPLI;3VAREIA*2 2 4;3KATHISTI",
  "3SYRMATIKI;3PARAKLITIKI;3YPOKRISIS;4DIPLI;3KREMASTI;3APESO*1 a 4;3EXO*1 b 4;3TELEIA;3KENTIMATA",
  "3APOSTROFOS;4DIPLI;3SYNEVMA;3THITA;3OLIGON ARCHAION;3GORGON*1 1 4;3PSILON;3CHAMILON;3VATHY",
  "3ISON*1 5 4;3KENTIMA*1 6 4;3KENTIMATA*1 7 4;3SAXIMATA;3PARICHON;3STAVROS APODEXIA;3OXEIAI*1 b 4",
  "3VAREIAI*1 c 4;3APODERMA*1 d 4;3APOTHEMA;3KLASMA;3REVMA;3PIASMA*1 11 4;3TINAGMA;3ANATRICHISMA",
  "3SEISMA;3SYNAGMA*1 15 4;4META STAVROU;3OYRANISMA*1 17 4;3THEMA;3LEMOI;3DYO;3TRIA;3TESSERA",
  "3KRATIMATA;3APESO EXO NEO;3FTHORA*1 1f 4;3IMIFTHORA;3TROMIKON*1 21 4;3KATAVA TROMIKON;3PELASTON",
  "3PSIFISTON;3KONTEVMA;3CHOREVMA*1 26 4;3RAPISMA;3PARAKALESMA*1 28 4;3PARAKLITIKI*1 29 4;3ICHADIN",
  "3NANA;3PETASMA;3KONTEVMA ALLO;3TROMIKON ALLO;3STRAGGISMATA;3GRONTHISMATA;3ISON NEO;3OLIGON NEO",
  "3OXEIA NEO;3PETASTI;3KOUFISMA;3PETASTOKOUFISMA;3KRATIMOKOUFISMA;3PELASTON NEO",
  "3KENTIMATA NEO ANO;3KENTIMA*1 1 4;3YPSILI;3APOSTROFOS NEO;3APOSTROFOI SYNDESMOS NEO;3YPORROI",
  "3KRATIMOYPORROON;3ELAFRON;3CHAMILI;3MIKRON ISON;3VAREIA NEO;3PIASMA NEO;3PSIFISTON NEO;3OMALON",
  "3ANTIKENOMA;3LYGISMA;3PARAKLITIKI NEO;3PARAKALESMA NEO;3ETERON PARAKALESMA;3KYLISMA",
  "3ANTIKENOKYLISMA;3TROMIKON NEO;3EKSTREPTON;3SYNAGMA NEO;3SYRMA;3CHOREVMA NEO;3EPEGERMA",
  "3SEISMA NEO;3XIRON KLASMA;3TROMIKOPSIFISTON;3PSIFISTOLYGISMA;3TROMIKOLYGISMA",
  "3TROMIKOPARAKALESMA;3PSIFISTOPARAKALESMA;3TROMIKOSYNAGMA;3PSIFISTOSYNAGMA;3GORGOSYNTHETON",
  "3ARGOSYNTHETON;3ETERON*1 1 3;3OYRANISMA NEO;3THEMATISMOS ESO;4EXO;3THEMA APLOUN",
  "3THES KAI APOTHES;3KATAVASMA;3ENDOFONON;3YFEN KATO;4ANO;3STAVROS;3KLASMA ANO;3DIPLI*1 6b 4",
  "3KRATIMA*1 6c 4;4ALLO;4NEO;3APODERMA NEO;3APLI;3DIPLI;3TRIPLI;3TETRAPLI;3KORONIS",
  "3LEIMMA ENOS CHRONOU;4DYO CHRONON;4TRION*1 1 5;4TESSARON*1 2 5;4IMISEOS*1 4 5;3GORGON NEO ANO",
  "4PARESTIGMENON ARISTERA;5DEXIA;3DIGORGON;4PARESTIGMENON ARISTERA*2 17 4;5DEXIA;3TRIGORGON",
  "3ARGON;3IMIDIARGON;3DIARGON;3AGOGI POLI ARGI;4ARGOTERI;4ARGI;4METRIA;4MESI;4GORGI;4GORGOTERI",
  "4POLI GORGI;3MARTYRIA PROTOS ICHOS;4ALLI*1 1 4;4DEYTEROS ICHOS;4ALLI*1 1 4;4TRITOS ICHOS",
  "4TRIFONIAS;4TETARTOS ICHOS;5LEGETOS ICHOS;4*1 1 5;4PLAGIOS ICHOS;3ISAKIA TELOUS ICHIMATOS",
  "3APOSTROFOI*1 1 4;3FANEROSIS TETRAFONIAS;4MONOFONIAS;4DIFONIAS;3MARTYRIA VARYS ICHOS",
  "4PROTOVARYS ICHOS;4PLAGIOS*1 b 4;3GORTHMIKON N APLOUN;5DIPLOUN;3ENARXIS KAI FTHORA VOU",
  "3IMIFONON;3IMIFTHORON;3FTHORA ARCHAION DEYTEROU ICHOU;4DIATONIKI PA;5NANA;4NAOS ICHOS",
  "4DIATONIKI DI;4SKLIRON DIATONON DI;4DIATONIKI KE;5ZO;5NI*2 45 4;4MALAKON CHROMA*1 13 4;6*1 15 4",
  "3FHTORA SKLIRON CHROMA VASIS;3FTHORA SKLIRON CHROMA SYNAFI;4NENANO;3CHROA ZYGOS;4KLITON;4SPATHI",
  "3FTHORA I YFESIS TETARTIMORION;4ENARMONIOS ANTIFONIA;3YFESIS TRITIMORION;3DIESIS*1 1 4;4*1 4 6",
  "4APLI DYO DODEKATA;4MONOGRAMMOS TESSERA*1 1 6;4DIGRAMMOS EX*1 2 6;4TRIGRAMMOS OKTO*1 3 6",
  "3YFESIS*4 4 4;3GENIKI DIESIS;4YFESIS;3DIASTOLI APLI MIKRI;5MEGALI;4DIPLI;4THESEOS",
  "3SIMANSIS*1 1 4;5DISIMOU;5TRISIMOU;5TETRASIMOU;4ARSEOS;5*3 4 5;3DIGRAMMA GG;3DIFTOGGOS OU",
  "3STIGMA;3ARKTIKO PA;4VOU;4GA;4DI;4KE;4ZO;4NI;3KENTIMATA NEO MESO;3KENTIMA*1 1 4",
  "3KENTIMATA NEO KATO;3KENTIMA*1 1 4;3KLASMA KATO;3GORGON*1 3 4;1d100:0MUSICAL y si BARLINE",
  "2d*1 1 3;2n*1 2 3;2REVERSE*1 1 2;2DASHED*1 4 3;2sh*1 5 3;2e REPEAT s;2r*1 1 3;2REPEAT dt",
  "2DAL SEGNO;2DA CAPO;2SEGNO;2CODA;2REPEATED FIGURE-1;+2;2FERMATA;3p;2BREATH x;2CAESURA;2BRACE",
  "2br;2ONE-LINE STAFF;2TWO-LINE STAFF;2THREE-LINE STAFF;2FOUR-LINE STAFF;2FIVE-LINE STAFF",
  "2SIX-LINE STAFF;2SIX-STRING FRETBOARD;2FOUR-STRING*1 1 3;2G CLEF;4OTTAVA ALTA;5BASSA;2C CLEF",
  "2F*3 4 3;2DRUM CLEF-1;+1;1d129:2MULTIPLE MEASURE REST;2d SHARP;3FLAT;2FLAT UP;3dw;2NATURAL UP",
  "3dw;2SHARP UP;3dw;2qa to*2 8 3;2COMMON TIME;2CUT TIME;2*2 15 4;2QUINDICESIMA*2 17 5;2MULTI REST",
  "2WHOLE REST;2hl REST;2qa REST;2EIGHTH REST;2SIXTEENTH REST;2THIRTY-SECOND REST",
  "2SIXTY-FOURTH REST;2ONE hu TWENTY-EIGHTH REST;2X NOTEHEAD;2pl*1 1 3;2ci*1 2 2;2sq NOTEHEAD u;4q",
  "2tr NOTEHEAD UP u;5q;4e u;5q;4r u;5q;4dw u;5q;4UP r u;6q;2MOON*2 c 3;2TRIANGLE-ROUND*2 6 3",
  "2pa*1 13 3;2VOID*1 14 3;2*1 11 3;2NULL*1 16 3;2CLUSTER*2 14 3;2BREVE;2WHOLE NOTE;2hl NOTE",
  "2qa NOTE;2EIGHTH NOTE;2SIXTEENTH NOTE;2THIRTY-SECOND NOTE;2SIXTY-FOURTH NOTE",
  "2ONE hu TWENTY-EIGHTH NOTE;2co STEM;3SPRECHGESANG STEM;3TREMOLO-1;+2;2FINGERED*1 3 3;+2",
  "2co AUGMENTATION DOT;3FLAG-1;+4;2BEGIN BEAM;2END BEAM;2BEGIN TIE;2END TIE;2BEGIN SLUR;2END SLUR",
  "2BEGIN PHRASE;2END PHRASE;2co ad;3STACCATO;3TENUTO;3STACCATISSIMO;3MARCATO;3MARCATO-STACCATO",
  "3ACCENT-STACCATO;3LOURE;2ARPEGGIATO UP;3dw;2co DOIT;3RIP;3FLIP;3SMEAR;3BEND;3d TONGUE",
  "3tp TONGUE;2RINFORZANDO;2SUBITO;2Z;2PIANO;2MEZZO;2FORTE;2CRESCENDO;2DECRESCENDO",
  "2GRACE NOTE SLASH;4NO SLASH;2TR;2TURN;2in TURN;2TURN SLASH;3UP;2or STROKE-1;+a;2HAUPTSTIMME",
  "2NEBENSTIMME;2END OF STIMME;2DEGREE SLASH;2co dw BOW;3UP BOW;3HARMONIC;3SNAP PIZZICATO;2PEDAL x",
  "3UP x;2hl*1 2 2;2GLISSANDO UP;3dw;2w FINGERNAILS;2DAMP;3ALL;2MAXIMA;2LONGA;2BREVIS",
  "2SEMIBREVIS u;3q;2MINIMA;3q;2SEMIMINIMA u;3q;2FUSA u;3q;2LONGA PERFECTA REST;3IMPERFECTA REST",
  "2BREVIS REST;2SEMIBREVIS REST;2MINIMA REST;2SEMIMINIMA REST",
  "2TEMPUS PERFECTUM CUM PROLATIONE PERFECTA;6IMPERFECTA;6PERFECTA DIMINUTION-1;3IMPERFECTUM*2 3 4",
  "7*1 3 7;+2;2CROIX;2GREGORIAN*2 ad 2;2sq B;2VIRGA;2PODATUS;2CLIVIS;2SCANDICUS;2CLIMACUS",
  "2TORCULUS;2PORRECTUS;3FLEXUS;2SCANDICUS FLEXUS;2TORCULUS RESUPINUS;2PES SUBPUNCTIS",
  "2KIEVAN C CLEF;3END OF PIECE;3n NOTE;3RECITATIVE x;3*2 85 2;3qa NOTE STEM dw;6UP;3EIGHTH*2 2 4",
  "3FLAT s;2SORI;2KORON;1d200:0GREEK VOCAL NOTATION SYMBOL-1;+17;3SYMBOL-50;+4",
  "1INSTRUMENTAL*1 1d 2;+1;2*2 1c 2;2*2 1b 2;2*4 19 2;2*1 17 2;+2;2*1 14 2;+4;3SYMBOL-29;+1",
  "3SYMBOL-32;3SYMBOL-36;+4;3SYMBOL-42;+1;3SYMBOL-45;3SYMBOL-47;+7;0co GREEK MUSICAL TRISEME",
  "3TETRASEME;3PENTASEME;0GREEK MUSICAL LEIMMA;1d2e0:0MAYAN NUMERAL ze;2ONE;2TWO;2j;2fo;2fi;2SIX",
  "2se;2ei;2ni;2TEN;2ELEVEN;2TWELVE;2THIRTEEN;2FOURTEEN;2FIFTEEN;2SIXTEEN;2SEVENTEEN;2EIGHTEEN",
  "2NINETEEN;1d300:0MONOGRAM FOR EARTH;0DIGRAM FOR HEAVENLY EARTH;2HUMAN EARTH;2EARTHLY HEAVEN",
  "3HUMAN;2EARTH;0TETRAGRAM FOR ce;2FULL ci;2MIRED;2BARRIER;2KEEPING m;2CONTRARIETY;2ASCENT",
  "2OPPOSITION;2BRANCHING OUT;2DEFECTIVENESS OR DISTORTION;2DIVERGENCE;2YOUTHFULNESS;2INCREASE",
  "2PENETRATION;2REACH;2CONTACT;2HOLDING BACK;2WAITING;2FOLLOWING;2ADVANCE;2RELEASE;2RESISTANCE",
  "2EASE;2JOY;2CONTENTION;2ENDEAVOUR;2DUTIES;2CHANGE;2DECISIVENESS;2BOLD RESOLUTION;2PACKING",
  "2LEGION;2CLOSENESS;2KINSHIP;2GATHERING;2STRENGTH;2PURITY;2FULLNESS;2RESIDENCE;2LAW OR MODEL",
  "2RESPONSE;2GOING TO MEET;2ENCOUNTERS;2STOVE;2GREATNESS;2ENLARGEMENT;2PATTERN;2RITUAL;2FLIGHT",
  "2VASTNESS OR WASTING;2CONSTANCY;2MEASURE;2ETERNITY;2UNITY;2DIMINISHMENT;2cl MOUTH;2GUARDEDNESS",
  "2GATHERING IN;2MASSING;2ACCUMULATION;2EMBELLISHMENT;2DOUBT;2WATCH;2SINKING;2INNER;2DEPARTURE",
  "2DARKENING;2DIMMING;2EXHAUSTION;2SEVERANCE;2STOPPAGE;2HARDNESS;2COMPLETION;2CLOSURE;2FAILURE",
  "2AGGRAVATION;2COMPLIANCE;2ON THE VERGE;2DIFFICULTIES;2LABOURING;2FOSTERING",
  "1d360:0COUNTING ROD UNIT dg*9 6a 2;2TENS*9 9 3;0ie TALLY x*5 7c 2;0*1 5 1;2fi",
  "1d400:0MATHEMATICAL BOLD c A;3B;3C;3D;3E;3F;3G;3H;3I;3J;3K;3L;3M;3N;3O;3P;3Q;3R;3S;3T;3U;3V;3W",
  "3X;3Y;3Z;2m*1a 1a 3;1ITALIC*21 34 2;1d456:3*12 4d 3;1BOLD ITALIC*34 67 2;1SCRIPT c A;1d49e:3C",
  "3D;1d4a2:3G;1d4a5:3J;3K;1d4a9:2*4 94 2;1d4ae:2*c 93 2;1d4bb:3F;1d4bd:3*7 ab 3;1d4c5:3*b aa 3",
  "1BOLD SCRIPT*34 c4 2;1FRAKTUR c A;3B;1d507:2*4 f7 2;1d50d:2*8 f5 2;1d516:2*7 f4 2",
  "1d51e:2*1a f3 2;1DOUBLE-STRUCK c A;3B;1d53b:2*4 126 2;1d540:2*5 125 2;1d546:3O;1d54a:2*7 121 2",
  "1d552:2*1a b9 3;1BOLD FRAKTUR*34 154 2;1sa*34 188 2;2*55 1bc 1;4H;2*46 1bd 1",
  "1MONOSPACE*34 258 2;1ITALIC m DOTLESS I;4J;1d6a8:1BOLD c ALPHA;3BETA;3GAMMA;3DELTA;3ep;3ZETA",
  "3ETA;3THETA;3IOTA;3KAPPA;3LAMDA;3MU;3NU;3XI;3OMICRON;3PI;3RHO;3THETA y;3SIGMA;3TAU;3us;3PHI",
  "3CHI;3PSI;3OMEGA;2NABLA;2m*11 1a 3;3n SIGMA;3*7 1a 3;2PARTIAL DIFFERENTIAL;2ep y;2THETA y",
  "2KAPPA y;2PHI y;2RHO y;2PI y;1ITALIC*3a 3a 2;1BOLD*3a 3a 1;1sa*3a ae 1;3*3a ae 1",
  "1BOLD c DIGAMMA;&;1d7ce:2dg*a 436 2;1DOUBLE-STRUCK*a a 2;1sa*a 14 2;2*a 1e 1;1MONOSPACE*a 28 2",
  "0SIGNWRITING hn id;1hd id;1HAND-CUP id;1HAND-OVAL id;1hh id;1HAND-ANGLE id;1hn id BENT",
  "1hd*1 1 2;1hn tm UNDER*1 2 2;2id RAISED KNUCKLE;3CUPPED;3HINGED;4LOW;1hd id HINGE;1hn id mi",
  "1hd id mi;1hn id mi BENT;4RAISED KNUCKLES;4HINGED;3UP*1 1 3;3HINGED mi UP;3mi cj;5id BENT",
  "5mi BENT;5*2 e 3;4CROSSED;1hd*1 1 2;1hn mi BENT ov id;2id BENT ov mi;3mi tm;1hd*1 1 2",
  "1hn id mi sg tm BENT;4BENT tm sg;4tm BENT;4HINGED SPREAD tm SIDE;3UP mi HINGED*1 1 6;7cj",
  "3HINGED mi UP*1 3 6;3mi UP SPREAD tm FORWARD;4tm CUPPED;5cc;5HOOKED;5HINGED",
  "2tm BETWEEN id mi sg;2id mi cj*1 a 6;7cj;7BENT;2mi tm HOOKED id UP;2id tm HOOKED mi UP",
  "3mi cj*1 e 5;4CROSSED*1 f 6;4cj*1 d 6;5CUPPED*1 e 6;2mi tm CUPPED id UP;2id tm CUPPED mi UP",
  "2mi tm cc id UP;6HINGED;2id tm ANGLED OUT mi UP;5IN mi UP;4cc mi UP;3mi tm*1 24 4;5ANGLED OUT",
  "5ANGLED;2mi tm ANGLED OUT id UP;7CROSSED;5id UP;2id tm HOOKED*1 31 3;1HAND-FLAT fo FINGERS",
  "4BENT;4HINGED;4cj;5SPLIT;1HAND-CLAW*1 2 2;1hn fo FINGERS cj BENT;1hh*1 4 2",
  "1HAND-FLAT fi FINGERS SPREAD;2HEEL*1 1 2;2fi FINGERS SPREAD fo BENT;2HEEL*1 1 2",
  "2fi FINGERS SPREAD BENT;2HEEL*1 1 2;2fi FINGERS*1 2b 5;1HAND-CUP*1 7 2;5oe;1hh*1 1 2",
  "1HAND-OVAL*1 a 2;1HAND-FLAT fi FINGERS SPREAD HINGED;6tm SIDE;6NO tm;1HAND-FLAT",
  "2BETWEEN PALM FACINGS;2HEEL;2tm SIDE;2HEEL*1 6 6;2tm BENT;3FORWARD;2SPLIT id*1 9 6;3ce;4tm SIDE",
  "6BENT;3lt;1HAND-CLAW;2*2 f 6;2*1 42 6;1HAND-HOOK CURLICUE;1HAND-HOOK;1HAND-CUP oe;1HAND-CUP",
  "2oe*1 d 4;2tm SIDE;2oe NO tm;2NO tm;2oe*1 4b 6;2*1 4c 6;1HAND-CURLICUE*2 8 2;1hd;1HAND-OVAL",
  "2*3 11 2;1hh oe;3*1 55 6;1hh;2m;2*4 11 2;2tm SIDE TOUCHING id;3BETWEEN mi rn;1HAND-ANGLE",
  "1hn id mi rn;1hd*1 1 2;1hh*1 2 2;1HAND-ANGLE*1 3 2;1hh lt;1hn id mi rn BENT;5cj;1hh*1 1 2",
  "1hn lt dw;4RIPPLE sg;5CURVED;4OTHERS cc;3UP;2tm UNDER lt UP;1hd lt UP;1HAND-OVAL lt UP",
  "1HAND-ANGLE lt UP;1hn lt*1 8e 3;3BENT;3TOUCHES tm;3tm;1hh lt tm;1hn lt id tm;1hh*1 1 2",
  "1HAND-ANGLE lt id tm id tm OUT;6tm;1hn lt id;1hd lt id;1hh lt id;1HAND-ANGLE lt id;1hn id mi lt",
  "1hd*1 1 2;1hh*1 2 2;2rn;1HAND-ANGLE*1 4 2;1hn id mi cb lt;1hd*1 1 2;1hn rn dw",
  "1hh rn dw id tm ho mi;1HAND-ANGLE rn dw mi tm id cb;1hn rn UP;3*1 a6 3;3lt;1hd rn lt",
  "1HAND-OVAL rn lt;1HAND-ANGLE rn lt;1hn rn mi;4cj;3*1 a5 3;3id;3tm;1HAND-HOOK rn tm;1hn id rn lt",
  "1hd*1 1 2;1HAND-CURLICUE id rn lt ON;1HAND-HOOK id rn lt OUT;5IN;5UNDER;1HAND-CUP*1 6 2",
  "1hh*1 7 2;1HAND-ANGLE*1 5 2;4lt;1hn mi dw;1hh mi;1hn mi UP;1hd mi UP;1hn mi*1 bf 3;2*1 a3 4",
  "1HAND-HOOK mi tm;1hn mi tm lt;3lt;3rn lt;1hd*1 1 2;1HAND-CURLICUE mi*1 13 3;1HAND-CUP*1 3 2",
  "1hh*1 4 2;1HAND-ANGLE mi*2 15 3;4lt;1hd mi rn lt BENT;1HAND-CLAW mi rn lt cj;6SIDE",
  "1HAND-HOOK mi rn lt cj*3 6 5;1hh*1 d0 2;1hn*1 7b 3;1hh*1 7c 3;1hn id tm SIDE tm da;6cj;6BENT",
  "5id BENT;5BOTH BENT;5id HINGE;4FORWARD id sg;6BENT;4ho;4CURLICUE;4CURVE tm INSIDE",
  "1HAND-CLAW*1 1 2;1hn id tm CURVE tm UNDER;4ci;1HAND-CUP id tm;4oe;1hh*1 1 2;4la;3tm;4m",
  "1HAND-ANGLE id tm*3 20 5;1hn tm;3HEEL;3SIDE*3 19 6;3FORWARD;3BETWEEN id mi;4mi rn;4rn lt",
  "3UNDER TWO FINGERS;3ov*1 1 4;3UNDER j*1 2 5;4*1 bd 2;3ov fo*1 f1 4;1hn;2HEEL;1TOUCH si",
  "2MULTIPLE;2BETWEEN;1GRASP*3 3 2;1STRIKE*3 6 2;1BRUSH*3 9 2;1RUB*3 c 2;1SURFACE SYMBOLS;2BETWEEN",
  "1SQUEEZE la si;2m si;2la*1 12 2;2m*1 13 2;2SEQUENTIAL;1FLICK*5 5 2;1SQUEEZE FLICK ae",
  "1MOVEMENT-HINGE UP dw la;4m;3*1 9 2;2dw*1 a 2;2UP dw ae la;5m;2SIDE TO SIDE SCISSORS",
  "1mv FINGER CONTACT;1mo*1 1 2;1mv si sg m;4me;4la;4LARGEST;3WRIST FLEX;2d sg;3*1 2 3;3ae;4*1 4 3",
  "2cb;2tp sg MOVEMENT;3*3 5 3;2BEND*3 e 4;2cd*3 11 4;3ROTATION;2CHECK*3 15 4;2BOX*3 18 4",
  "2ZIGZAG*3 1b 4;2PEAKS*3 1e 4;1TRAVEL-WALLPLANE ROTATION-WALLPLANE si;3d;3ae",
  "2ROTATION-FLOORPLANE*3 3 3;2SHAKING;2ARM SPIRAL si;4d;4tp;1MOVEMENT-DIAGONAL AWAY*4 2b 4",
  "2TOWARDS*4 2f 4;2BETWEEN*8 8 2;1mo*c 3b 2;3ae*1 3d 4;4*1 44 3;2BEND;2*3 39 2;2CHECK;2*9 36 2",
  "1TRAVEL-FLOORPLANE*3 33 2;2*3 39 2;2SHAKING;1mv CURVE qa*4 5e 4;3HALF-CIRCLE*4 62 4",
  "3THREE-QUARTER ci m;5me;2HUMP*3 68 4;2LOOP*3 6b 4;3m d;2WAVE CURVE d*3 6f 4;4tp*3 72 4",
  "2CURVE THEN sg;2CURVED cb m;4me;1*2 57 2;2aa;1mv SHAKING;2CURVE hi FRONT WALL;2HUMP*1 1 3",
  "2LOOP*1 2 3;2WAVE*1 3 3;1ROTATION-WALLPLANE si*1 4 3;2d*1 5 3;2ae*1 6 3;1mv CURVE hi CHEST",
  "2HUMP*1 1 3;2LOOP*1 2 3;2WAVE*1 3 3;1ROTATION-WALLPLANE si*1 4 3;2d*1 5 3;2ae*1 6 3",
  "1mv WAVE da PATH*3 8a 4;1mo CURVE hi CEILING m;5la;2HUMP hi CEILING m d;5la d;5m tp;5la tp",
  "2LOOP hi CEILING m si;5la si;3*2 6 3;2WAVE*2 a 3;1ROTATION-FLOORPLANE si hi CEILING;2d*1 1 3",
  "2ae*1 2 3;1mo CURVE hi FLOOR m;5la;2HUMP hi FLOOR*2 f 5;5tp*2 f 5;2LOOP hi FLOOR*4 f 5",
  "2WAVE*2 a 3;1ROTATION-FLOORPLANE si hi FLOOR;2d*1 1 3;2ae*1 2 3;1mo CURVE*4 ab 4;3COMBINED",
  "2HUMP m;2LOOP m;2WAVE SNAKE;3m;3la;1*3 91 2;1mo SHAKING PARALLEL;1mv ARM ci m si;4me si;4m d",
  "4me d;1mo ARM ci hi WALL*2 4 4;6la si;6*2 5 4;6la d;1mv WRIST ci FRONT si;5d",
  "1mo WRIST ci hi WALL si;6d;1mv FINGER CIRCLES si;4d;1mo FINGER CIRCLES*2 4 4;1DYNAMIC ar m;3la",
  "2FAST;2SLOW;2TENSE;2RELAXED;2SIMULTANEOUS;3ae;2EVERY OTHER TIME;2GRADUAL;1HEAD;2RIM;2mv sg",
  "3TILT;2mo sg;2mv CURVE;2mo CURVE;2MOVEMENT ci;1fa DIRECTION POSITION NOSE FORWARD TILTING",
  "5UP OR dw;8TILTING;1EYEBROWS sg UP;3NEUTRAL;3dw;1DREAMY EYEBROWS NEUTRAL dw;3dw*1 3 3;3UP*1 4 3",
  "3NEUTRAL UP;1FOREHEAD*1 6 3;2CONTACT;2WRINKLED;1EYES oe;2SQUEEZED;2cl;1EYE BLINK*2 112 2",
  "1EYES hl oe;2WIDE oe;2hl cl;2WIDENING*1 e8 4;1EYE WINK;1EYELASHES UP;2dw;2FLUTTERING",
  "1EYEGAZE-WALLPLANE sg;3d;3ae;1EYEGAZE-FLOORPLANE*3 3 2;1EYEGAZE-WALLPLANE CURVED",
  "1EYEGAZE-FLOORPLANE CURVED;1EYEGAZE-WALLPLANE CIRCLING;1CHEEKS PUFFED;2NEUTRAL;2SUCKED",
  "1TENSE CHEEKS hg;3mi;3LOW;1EARS;1NOSE*2 20 2;2WRINKLES;2WIGGLES;1AIR BLOWING OUT;2SUCKING IN",
  "2BLOW m ROTATIONS;2SUCK*1 1 3;1BREATH INHALE;2EXHALE;1MOUTH cl*1 a 2;3FORWARD;3CONTACT;2SMILE",
  "3WRINKLED;3oe;2FROWN;3*2 3 3;2oe ci;3FORWARD;3*1 7 3;3OVAL;4*1 9 3;4YAWN;3RECTANGLE;4*2 3 4",
  "2KISS;3*2 9 3;2TENSE;3FORWARD;3SUCKED;1LIPS PRESSED TOGETHER;1LIP lo ov ue;2ue ov lo",
  "1MOUTH CORNERS;2WRINKLES si;3d;1TONGUE STICKING OUT FAR;2LICKING LIPS;2TIP BETWEEN LIPS",
  "3TOUCHING INSIDE MOUTH;2INSIDE MOUTH RELAXED;2MOVES AGAINST CHEEK;2ce STICKING OUT;3*1 4 4",
  "1TEETH;2MOVEMENT;2ON TONGUE;4*1 2 2;3LIPS;4*1 4 2;2BITE LIPS;1mv JAW;1mo JAW;1NECK;1HAIR",
  "1EXCITEMENT;1SHOULDER HIP SPINE;3POSITIONS;1WALLPLANE SHOULDER HIP MOVE;1FLOORPLANE*1 1 2",
  "1SHOULDER TILTING FROM WAIST;1TORSO-WALLPLANE sg STRETCH;2CURVED BEND",
  "1TORSO-FLOORPLANE TWISTING;1ue BODY TILTING FROM HIP JOINTS;1LIMB COMBINATION;2LENGTH-1;+6",
  "1FINGER;1LOCATION-WALLPLANE SPACE;1LOCATION-FLOORPLANE SPACE;1LOCATION HEIGHT;2WIDTH;2DEPTH",
  "2HEAD NECK;2TORSO;2LIMBS DIGITS;1cm;1FULL so;1SEMICOLON;1COLON;1pa;1da9b:1FILL MODIFIER-2;+4",
  "1daa1:1ROTATION*5 5 2;+a;1df00:0lb m l FENG dr w TRILL;3re SCRIPT G;1l m c tu G;1m l re K",
  "1l m c L w BELT;1m l LEZH w rt ho;3tu Y w BELT;3re ENG;3tu R w ln LEG k rt ho;3T w ho*1 1 8",
  "1l rt CLICK*1 5 4;1m l ESH w d BAR;7k CURL;3tu T w CURL;1l in GLOTTAL so w CURL",
  "2STRETCHED C w CURL;2m c tu K;1m l L w FISHHOOK;3DEZH dr w pt ho;3L w BELT k pt ho;3ENG*1 2 5",
  "3tu R*1 3 5;3R w FISHHOOK*1 3 6;3TESH*1 5 4;3EZH*1 6 5;3DEZH dr*1 f 4;3I w st k rt ho;3O*1 2 5",
  "3TESH*1 3 4;3C*1 4 5;3S w CURL;1e000:0co GLAGOLITIC l AZU;3BUKY;3VEDE;3GLAGOLI;3DOBRO;3YESTU",
  "3ZHIVETE;1e008:3ZEMLJA;3IZHE;3h IZHE;3I;3DJERVI;3KAKO;3LJUDIJE;3MYSLITE;3NASHI;3ONU;3POKOJI",
  "3RITSI;3SLOVO;3TVRIDO;3UKU;3FRITU;3HERU;1e01b:3SHTA;3TSI;3CHRIVI;3SHA;3YERU;3YERI;3YATI",
  "1e023:3YU;3m YUS;1e026:3YO;3IOTATED m YUS;3BIG YUS;3IOTATED*1 1 3;3FITA",
  "1e100:0NYIAKENG PUACHUE HMONG l MA;4TSA;4NTA;4TA;4HA;4NA;4XA;4NKA;4CA;4LA;4SA;4ZA;4NCA;4NTSA",
  "4KA;4DA;4NYA;4NRA;4VA;4NTXA;4TXA;4FA;4RA;4QA;4YA;4NQA;4PA;4XYA;4NPA;4DLA;4NPLA;4HAH;4MLA;4PLA",
  "4GA;4RRA;4A;4AA;4I;4U;4O;4OO;4E;4EE;4W;1e130:3TONE-B;3TONE-M;3TONE-J;3TONE-V;3TONE-S;3TONE-G",
  "3TONE-D;3s FOR PERSON;5THING;5LOCATION;5ANIMAL;5INVERTEBRATE;4XW XW;3SYLLABLE LENGTHENER",
  "1e140:3*a 352 2;1e14e:3LOGOGRAM NYAJ;3cc CA;1e290:0TOTO l PA;2BA;2TA;2DA;2KA;2GA;2MA;2NA;2NGA",
  "2SA;2CHA;2YA;2WA;2JA;2HA;2RA;2LA;2I;2BREATHY I;2IU;2BREATHY IU;2U;2E;2BREATHY E;2EO;2BREATHY EO",
  "2O;2AE;2BREATHY AE;2A;1s RISING to;1e2c0:0WANCHO l AA;2A;2BA;2CA;2DA;2GA;2YA;2PHA;2LA;2NA;2PA",
  "2TA;2THA;2FA;2SA;2SHA;2JA;2ZA;2WA;2VA;2KA;2O;2AU;2RA;2MA;2KHA;2HA;2E;2I;2NGA;2U;2LLHA;2TSA;2TRA",
  "2ONG;2AANG;2ANG;2ING;2ON;2EN;2AAN;2NYA;2UEN;2YIH;1to TUP;2TUPNI;2KOI;2KOINI;1*a 3ad 2",
  "1e2ff:1NGUN s;1e7e0:0ETHIOPIC SYLLABLE HHYA;2HHYU;2HHYI;2HHYAA;2HHYEE;2HHYE;2HHYO",
  "1e7e8:2GURAGE HHWA;2HHWI;2HHWEE;2HHWE;1e7ed:2GURAGE MWI;3MWEE;1e7f0:3QWI;3QWEE;3QWE;3BWI;3BWEE",
  "3KWI;3KWEE;3KWE;3GWI;3GWEE;3GWE;3FWI;3FWEE;3PWI;3PWEE;1e800:0MENDE KIKAKUI SYLLABLE M001 KI",
  "3M002 KA;3M003 KU;3M065 KEE;3M095 KE;3M076 KOO;3M048 KO;3M179 KUA;3M004 WI;3M005 WA;3M006 WU",
  "3M126 WEE;3M118 WE;3M114 WOO;3M045 WO;3M194 WUI;3M143 WEI;3M061 WVI;3M049 WVA;3M139 WVE",
  "3M007 MIN;3M008 MAN;3M009 MUN;3M059 MEN;3M094 MON;3M154 MUAN;3M189 MUEN;3M010 BI;3M011 BA",
  "3M012 BU;3M150 BEE;3M097 BE;3M103 BOO;3M138 BO;3M013 I;3M014 A;3M015 U;3M163 EE;3M100 E",
  "3M165 OO;3M147 O;3M137 EI;3M131 IN;3M135 IN;3M195 AN;3M178 EN;3M019 SI;3M020 SA;3M021 SU",
  "3M162 SEE;3M116 SE;3M136 SOO;3M079 SO;3M196 SIA;3M025 LI;3M026 LA;3M027 LU;3M084 LEE;3M073 LE",
  "3M054 LOO;3M153 LO;3M110 ln LE;3M016 DI;3M017 DA;3M018 DU;3M089 DEE;3M180 DOO;3M181 DO;3M022 TI",
  "3M023 TA;3M024 TU;3M091 TEE;3M055 TE;3M104 TOO;3M069 TO;3M028 JI;3M029 JA;3M030 JU;3M157 JEE",
  "3M113 JE;3M160 JOO;3M063 JO;3M175 ln JO;3M031 YI;3M032 YA;3M033 YU;3M109 YEE;3M080 YE;3M141 YOO",
  "3M121 YO;3M034 FI;3M035 FA;3M036 FU;3M078 FEE;3M075 FE;3M133 FOO;3M088 FO;3M197 FUA;3M101 FAN",
  "3M037 NIN;3M038 NAN;3M039 NUN;3M117 NEN;3M169 NON;3M176 HI;3M041 HA;3M186 HU;3M040 HEE;3M096 HE",
  "3M042 HOO;3M140 HO;3M083 HEEI;3M128 HOOU;3M053 HIN;3M130 HAN;3M087 HUN;3M052 HEN;3M193 HON",
  "3M046 HUAN;3M090 NGGI;3M043 NGGA;3M082 NGGU;3M115 NGGEE;3M146 NGGE;3M156 NGGOO;3M120 NGGO",
  "3M159 NGGAA;3M127 NGGUA;3M086 ln NGGE;3M106 ln NGGOO;3M183 ln NGGO;3M155 GI;3M111 GA;3M168 GU",
  "3M190 GEE;3M166 GUEI;3M167 GUAN;3M184 NGEN;3M057 NGON;3M177 NGUAN;3M068 PI;3M099 PA;3M050 PU",
  "3M081 PEE;3M051 PE;3M102 POO;3M066 PO;3M145 MBI;3M062 MBA;3M122 MBU;3M047 MBEE;3M188 MBEE",
  "3M072 MBE;3M172 MBOO;3M174 MBO;3M187 MBUU;3M161 ln MBE;3M105 ln MBOO;3M142 ln MBO;3M132 KPI",
  "3M092 KPA;3M074 KPU;3M044 KPEE;3M108 KPE;3M112 KPOO;3M158 KPO;3M124 GBI;3M056 GBA;3M148 GBU",
  "3M093 GBEE;3M107 GBE;3M071 GBOO;3M070 GBO;3M171 RA;3M123 NDI;3M129 NDA;3M125 NDU;3M191 NDEE",
  "3M119 NDE;3M067 NDOO;3M064 NDO;3M152 NJA;3M192 NJU;3M149 NJEE;3M134 NJOO;3M182 VI;3M185 VA",
  "3M151 VU;3M173 VEE;3M085 VE;3M144 VOO;3M077 VO;3M164 NYIN;3M058 NYAN;3M170 NYUN;3M098 NYEN",
  "3M060 NYON;1e8c7:2*9 864 3;2co nu TEENS;4TENS;4HUNDREDS;4THOUSANDS;4TEN*1 1 4;4hu*1 2 4",
  "4MILLIONS;1e900:0ADLAM c l ALIF;3DAALI;3LAAM;3MIIM;3BA;3SINNYIIYHE;3PE;3BHE;3RA;3E;3FA;3I;3O",
  "3DHA;3YHE;3WAW;3NUN;3KAF;3YA;3U;3JIIM;3CHI;3HA;3QAAF;3GA;3NYA;3TU;3NHA;3VA;3KHA;3GBE;3ZAL;3KPO",
  "3SHA;1m*22 22 2;1ALIF*1 19c 4;1vo*1 1 2;1GEMINATION x;1HAMZA;1cn mf;1GEMINATE cn mf;1NUKTA",
  "1NASALIZATION x;1e950:1*a 4f5 2;1e95e:1h ex x;2qe x;1ec71:0INDIC SIYAQ nu*a 936 2;3tw;3THIRTY",
  "3FORTY;3FIFTY;3SIXTY;3sv;3EIGHTY;3nn;3ONE hu;3TWO hu;3j hu;3fo hu;3fi hu;3SIX hu;3se hu;3ei hu",
  "3ni hu;3ONE th;3TWO th;3j th;3fo th;3fi th;3SIX th;3se th;3ei th;3ni th;3TEN th;3tw th",
  "3THIRTY th;3FORTY th;3FIFTY th;3SIXTY th;3sv th;3EIGHTY th;3nn th;3LAKH;3LAKHAN;2LAKH x",
  "2nu KAROR;3KARORAN;3PREFIXED*9 968 2;2PLACEHOLDER;2FRACTION ONE qa;4hl;3j QUARTERS;2RUPEE x",
  "2nu aa*2 a8 3;4TEN th;2aa LAKH x;1ed01:0OTTOMAN*2d 44 1;2MARRATAN;2aa*9 71 2;4fo hu;4SIX hu",
  "4TWO th;4TEN th;1*1 42 1;4SIXTH;1ee00:0ARABIC MATHEMATICAL al;2BEH;2je;2DAL;1ee05:2WAW;2ZAIN",
  "2HAH;2TAH;2YEH;2KAF;2LAM;2mm;2NOON;2SEEN;2AIN;2FEH;2SAD;2QAF;2REH;2SHEEN;2TEH;2THEH;2KHAH;2THAL",
  "2DAD;2ZAH;2GHAIN;2DOTLESS BEH;3NOON;3FEH;3QAF;1ee21:2h BEH;3je;1ee24:3HEH;1ee27:3HAH",
  "1ee29:3*a 1b 2;1ee34:3*4 1a 2;1ee39:3DAD;1ee3b:3GHAIN;1ee42:2TAILED je;1ee47:3HAH;1ee49:3YEH",
  "1ee4b:3LAM;1ee4d:3*3 2b 2;1ee51:3*2 f 3;1ee54:3SHEEN;1ee57:3KHAH;1ee59:3DAD;1ee5b:3GHAIN",
  "1ee5d:3*1 24 2;1ee5f:4QAF;1ee61:2STRETCHED BEH;3je;1ee64:3HEH;1ee67:3*4 3f 2;1ee6c:3*7 3e 2",
  "1ee74:3*4 3d 2;1ee79:3*4 3c 2;1ee7e:4FEH;1ee80:2LOOPED*4 59 2;3HEH;3*5 5a 2;1ee8b:3*11 59 2",
  "1eea1:2DOUBLE-STRUCK*3 73 2;1eea5:3*5 73 2;1eeab:3*11 72 2;1eef0:2op mm w HAH w TATWEEL",
  "3HAH w DAL"]

end Dalvik.Text
