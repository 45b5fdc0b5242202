/-!
Names of cuneiform signs, hieroglyphs and their like. The entries are in the form that `addNames`
reads.
-/

namespace Dalvik.Text

def signNames : List String := [
  "12000:0CUNEIFORM s A;3ti A;4BAD;4GAN2 TENU;4HA;4IGI;4LAGAR GUNU;4MUSH;4SAG;2A2;2AB;3ti ASH2",
  "4DUN3 GUNU;4GAL;3*2 b 3;4IGI GUNU;4IMIN;4LAGAB;4SHESH;4U pl U pl U;3GUNU;2AB2;3ti BALAG",
  "3*1 15 3;4ME pl EN;4SHA3;4TAK4;2AD;2AK;3ti ERIN2;4SHITA pl GISH;2AL;3ti AL;4DIM2;4GISH;4HA",
  "4KAD3;4KI;4SHE;4USH;2ALAN;2ALEPH;2AMAR;3ti SHE;2AN;3ov AN;3j ti;3pl NAGA OPPOSING AN pl NAGA",
  "5su;2ANSHE;2APIN;2ARAD;3ti KUR;2ARKAB;2ASAL2;2ASH;3ZIDA TENU;3KABA TENU",
  "3ov ASH TUG2 ov TUG2 TUG2 ov TUG2 PAP;5ov ASH;7cs*1 1 2;2ASH2;2ASHGAB;2BA;2BAD;2BAG3;2BAHAR2",
  "2BAL;3ov BAL;2BALAG;2BAR;2BARA2;2BI;3ti A;4GAR;4IGI GUNU;2BU;3ov BU AB;5UN;3cs BU;2BULUG",
  "3ov BULUG;2BUR;2BUR2;2DA;2DAG;3KISIM5 ti A pl MASH;5AMAR;5BALAG;5BI;5GA;6pl MASH;5GI;5GIR2;5GUD",
  "5HA;5IR;6pl LU;5KAK;5LA;5LU;6pl MASH2;5LUM;5NE;5PAP pl PAP;5SI;5TAK4;5U2 pl GIR2;5USH;2DAM;2DAR",
  "2DARA3;+1;2DI;2DIB;2DIM;3ti SHE;2DIM2;2DIN;3KASKAL U GUNU DISH;2DISH;2DU;3ov DU;3GUNU;3SHESHIG",
  "2DUB;3ti ESH2;2DUB2;2DUG;2DUGUD;2DUH;2DUN;2DUN3;3GUNU;4GUNU;2DUN4;2DUR2;2E;3ti PAP",
  "3ov E NUN ov NUN;2E2;3ti A pl HA pl DA;4GAR;4MI;4SAL;4SHE;4U;2EDIN;2EGIR;2EL;2EN;3ti GAN2;5TENU",
  "4ME;3cs EN;3OPPOSING EN;3su;2EREN;2ERIN2;2ESH2;2EZEN;3ti A;5pl LAL;7ti LAL;4AN;4BAD;4*2 21 2",
  "4HA;5GUNU;4IGI GUNU;4KASKAL;5su;4KU3;4LA;4*1 c 6;4LI;4LU;4U2;4UD;2GA;3GUNU;2GA2",
  "3ti A pl DA pl HA;6HA;6IGI;4AB2 TENU pl TAB;4AN;4ASH;4ASH2 pl GAL;4BAD;4BAR pl RA;4BUR;5pl RA",
  "4DA;4DI;4*1 50 2;4DUB;4EL;5pl LA;4EN;5*1 c7 3;3*1 c8 3;4GAR;4GI;4GI4;5pl A;4GIR2 pl SU",
  "4HA pl LU pl ESH2;4HAL;5pl LA;4HI pl LI;4HUB2;4IGI GUNU;4ISH pl HU pl ASH;4KAK;4KASKAL;4KID",
  "5pl LAL;4KU3 pl AN;4LA;4ME pl EN;4MI;4NUN;5ov NUN;4PA;4SAL;4SAR;4SHE;5pl TUR;4SHID;4SUM;4TAK4",
  "4U;4UD;5pl DU;3ov GA2;2GABA;3cs GABA;2GAD;3ov GAD GAR ov GAR;2GAL;3*1 2 2;2GALAM;2GAM;2GAN",
  "2*2 5f 4;3ov GAN2;3cs GAN2;2GAR;2GAR3;2GASHAN;2GESHTIN;3ti KUR;2GI;3ti E;4U;3cs GI;2GI4;3ov GI4",
  "3cs GI4;2GIDIM;2GIR2;3GUNU;2GIR3;3*1 51 3;3*1 fe 3;4IGI;4LU pl IGI;4PA;2GISAL;2GISH;3cs GISH",
  "3ti BAD;4TAK4;3TENU;2GU;3cs GU;2GU2;3ti KAK;5*1 10a 3;4NUN;4SAL pl TUG2;3GUNU;2GUD;3ti A pl KUR",
  "4KUR;3ov GUD LUGAL;2GUL;2GUM;3ti SHE;2GUR;2GUR7;2GURUN;2GURUSH;2HA;3TENU;3GUNU;2HAL;2HI;3ti ASH",
  "4ASH2;4BAD;4DISH;4GAD;4KIN;4NUN;4SHE;4U;2HU;2HUB2;3ti AN;4HAL;4KASKAL;4LISH;4UD;2HUL2;2I;3A;2IB",
  "2IDIM;3ov IDIM BUR;5su;2IG;2IGI;3DIB;3RI;3ov IGI SHIR ov SHIR UD ov UD;3GUNU;2IL;3*1 149 3;2IL2",
  "2IM;3ti TAK4;3cs IM;3OPPOSING IM;3su;2IMIN;2IN;2IR;2ISH;2KA;3ti A;4AD;5pl KU3;3*2 2c 3",
  "4*2 117 2;4BI;4*2 c1 2;4GA;4GAL;3*2 99 3;5pl SHA3 pl A;4GI;4GIR2;4GISH pl SAR;5cs GISH;4GU",
  "4GUR7;4IGI;4IM;4KAK;4KI;4KID;4LI;4LU;4ME;5pl DU;6GI;6TE;4MI;5pl NUNUZ;4NE;4NUN;4PI;4RU;4SA;4SAR",
  "4SHA;4SHE;4SHID;4SHU;4SIG;4SUHUR;4TAR;4U;4U2;4UD;4UMUM ti PA;4USH;4ZI;2KA2;3cs KA2;2KAB;2KAD2",
  "+3;3ov KAD5;2*2 7c 4;2KAL;3ti BAD;3cs KAL;2KAM2;2KAM4;2KASKAL;3LAGAB ti U ov LAGAB ti U",
  "3ov*1 1 2;2KESH2;2KI;3ti BAD;4U;4UD;2KID;2KIN;2KISAL;2KISH;2KISIM5;3ov KISIM5;2KU",
  "3ov HI ti ASH2 KU ov*1 7c 2;2KU3;+1;3VARIANT f;2KU7;2KUL;3GUNU;2KUN;2KUR;3OPPOSING KUR;2KUSHU2",
  "2KWU318;2LA;2LAGAB;3ti A;3*1 102 3;6GAR;6LAL;4AL;4AN;4*1 186 2;4BAD;4BI;4DAR;4EN;4GA;4GAR;4GUD",
  "5pl GUD;4HA;4HAL;4*1 96 2;4IGI GUNU;4IM;5pl HA;6LU;4KI;4KIN;4KU3;4KUL;5pl HI pl A;4LAGAB;4LISH",
  "4LU;4LUL;4ME;5pl EN;4MUSH;4NE;4SHE pl SUM;4SHITA pl GISH pl ERIN2;7TENU;4SHU2;5pl SHU2;4SUM",
  "4TAG;4TAK4;4TE pl A pl SU pl NA;4U;5pl A;6U pl U;4U2 pl ASH;4UD;4USH;3su;2LAGAR;3ti SHE;5pl SUM",
  "3GUNU;4ov LAGAR GUNU SHE;2LAHSHU;2*2 14f 6;2LAM;3ti KUR;5pl RU;2LI;2LIL;2LIMMU2;2LISH;2LU",
  "3ti BAD;2LU2;3ti AL;4BAD;4ESH2;5TENU;3*1 f6 3;4*1 d3 2;4IM;4KAD2;+1;5pl ASH;4KI;4LA pl ASH",
  "4LAGAB;4ME pl EN;4NE;4NU;4SI pl ASH;4SIK2 pl BU;4TUG2;3TENU;3cs LU2;3OPPOSING LU2;3su;3SHESHIG",
  "2LU3;2LUGAL;3ov LUGAL;3OPPOSING LUGAL;3SHESHIG;2LUH;2LUL;2LUM;3ov LUM;5*1 12e 5;2MA;3ti TAK4",
  "3GUNU;2MA2;2MAH;2MAR;2MASH;2MASH2;2ME;2MES;2MI;2MIN;2MU;3ov MU;2MUG;3GUNU;2MUNSUB;2MURGU2;2MUSH",
  "3ti A;4KUR;4ZA;3ov MUSH;5ti A pl NA;3cs MUSH;2MUSH3;3ti A;5pl DI;4DI;3GUNU;2NA;2NA2;2NAGA;3in",
  "3ti SHU TENU;3OPPOSING NAGA;2NAGAR;2NAM NUTILLU;2NAM;2NAM2;2NE;3ti A;4UD;3SHESHIG;2NI;3ti E",
  "2NI2;2NIM;3*1 24d 3;4GAR pl*1 1 4;2NINDA2;3*2 197 3;5pl ASH;4GUD;4ME*1 6 5;4NE;4NUN;4SHE",
  "5pl A AN;6*2 8 4;3*1 76 3;4USH;2NISAG;2NU;2NU11;2NUN;3LAGAR ti GAR;5MASH;5SAL;6ov*1 1 2;5USH",
  "3TENU;3ov NUN;3cs NUN;5LAGAR ov LAGAR;2NUNUZ;3AB2 ti ASHGAB;5BI;5DUG;5GUD;5IGI GUNU;5KAD3;5LA",
  "5NE;5SILA3;5U2;3*1 21e 3;6U;2PA;2PAD;2PAN;2PAP;2PESH2;2PI;3ti A;4AB;4BI;4BU;4E;4I;4IB;4U;4U2",
  "3cs PI;2PIRIG;3ti KAL;4UD;4ZA;3OPPOSING PIRIG;2RA;2RAB;2RI;2RU;2SA;2SAG*2 4f 3;3ti A;4DU;4DUB",
  "4HA;4KAK;4KUR;4LUM;4MI;4NUN;4SAL;4SHID;4TAB;4U2;4UB;4UM;4UR;4USH;3ov SAG;3GUNU;2SAL",
  "3LAGAB ti ASH2;2SANGA2;2SAR;2SHA;2SHA3;3ti A;4BAD;4GISH;4NE;4SHU2;4TUR;4U;5pl A;2SHA6;2SHAB6",
  "2SHAR2;2SHE;3HU;3ov SHE*1 1cb 2;5TAB ov TAB*1 1 8;2SHEG9;2SHEN;2SHESH;2SHESH2;2SHESHLAM;2SHID",
  "3ti A;4IM;2SHIM;3ti A;4BAL;4BULUG;4DIN;4GAR;4IGI;5GUNU;4KUSHU2;4LUL;4MUG;4SAL;2SHINIG;2SHIR",
  "3TENU;3ov SHIR BUR ov BUR;2SHITA;2SHU;3ov in SHU;2SHU2;2SHUBUR;2SI;3GUNU;2SIG;2SIG4",
  "3ov SIG4 SHU2;2SIK2;2SILA3;2SU;3ov SU;2SUD;2SUD2;2SUHUR;2SUM;2SUMASH;2SUR;2SUR9;2TA;3as;3ti HI",
  "4MI;3GUNU;2TAB;3ov TAB NI ov NI DISH ov DISH;3su;2TAG;3ti BI;4GUD;4SHE;4SHU;4TUG2;4UD;2TAK4",
  "2TAR;2TE;3GUNU;2TI;3TENU;2TIL;2TIR;3ti TAK4;3ov TIR;5*1 213 2;2TU;2TUG2;2TUK;2TUM;2TUR",
  "3ov TUR ZA ov ZA;2U;3GUD;3U U;3ov U PA ov PA*1 a 8;5SUR ov SUR;5U re ov U re;2U2;2UB;2UD",
  "3KUSHU2;3ti BAD;4MI;3*1 303 3;9GUNU;3*2 29d 3;4ti BAD;2UDUG;2UM;3ti LAGAB;4ME pl DA;4SHA3;4U",
  "2UMBIN;2UMUM;3ti KASKAL;4PA;2UN;3GUNU;2UR;3cs UR;3SHESHIG;2UR2;3*1 273 3;6NA;4AL;4HA;4NUN;4U2",
  "5pl ASH;6BI;2UR4;2URI;2URI3;2URU;3ti A;4ASHGAB;4BAR;4DUN;3*4 1da 3;4GU;4HA;4IGI;4IM;4ISH;4KI",
  "4LUM;4MIN;4PA;4SHE;4SIG4;4TU;4U pl GUD;4UD;4URUDA;2URUDA;3ti U;2USH;3ti A;4KU;4KUR;4TAK4;2USHX",
  "2USH2;2USHUMX;2UTUKI;2UZ3;3*1 37 3;2UZU;2ZA;3TENU;3su ti KUR;2ZAG;2ZAMX;2ZE2;2ZI;3ov ZI;2ZI3",
  "2ZIB;3KABA TENU;2ZIG;2ZIZ2;2ZU;2ZU5;3ti A;2ZUBUR;2ZUM;2KAP ELAMITE;2AB ti NUN;2AB2 ti A",
  "2AMAR ti KUG;2DAG KISIM5 ti U2 pl MASH;2DAG3;2DISH pl SHU;2DUB ti SHE;2EZEN*2 82 3",
  "2GA2 ti AN pl KAK pl A;4ASH2;2GE22;2GIG;2HUSH;2KA ti ANSHE;4ASH3;4GISH;4GUD;4*1 253 2;4LUM;4PA",
  "4SHUL;4TU;4UR2;2LAGAB ti GI;2LU2*1 6e 3;3ti ESH2 pl LAL;4SHU;2MESH;2MUSH3 ti ZA;2NA4;2NIN;2NIN9",
  "2NINDA2 ti BAL;4GI;2NU11 ro nn de;2PESH2 as;2PIR2;2SAG*1 386 3;2TI2;2UM ti ME;2U U",
  "12400:1NUMERIC s TWO ASH;3j ASH;3fo ASH;3fi ASH;3SIX ASH;3se ASH;3ei ASH;3ni ASH;3j DISH",
  "3fo DISH;3fi DISH;3SIX DISH;3se DISH;3ei DISH;3ni DISH;3fo U;3fi U;3SIX U;3se U;3ei U;3ni U",
  "3ONE GESH2;3TWO GESH2;3j GESH2;3fo GESH2;3fi GESH2;3SIX GESH2;3se GESH2;3ei GESH2;3ni GESH2",
  "3ONE GESHU;3TWO GESHU;3j GESHU;3fo GESHU;3fi GESHU;3TWO SHAR2;3j SHAR2;5VARIANT f;3fo SHAR2",
  "3fi SHAR2;3SIX SHAR2;3se SHAR2;3ei SHAR2;3ni SHAR2;3ONE SHARU;3TWO SHARU;3j SHARU;5*1 a 5",
  "3fo SHARU;3fi SHARU;3SHAR2 ti GAL pl DISH;7MIN;3ONE BURU;3TWO BURU;3j BURU;5*1 12 5;3fo BURU",
  "3fi BURU;3j VARIANT f ESH16;6ESH21;3fo VARIANT f LIMMU;6LIMMU4;6LIMMU A;7B;3SIX VARIANT f ASH9",
  "3se VARIANT f IMIN3;6IMIN A;7B;3ei VARIANT f USSU;6USSU3;3ni VARIANT f ILIMMU;6ILIMMU3;+1",
  "6ILIMMU A;3TWO ASH TENU;3j*1 1 4;3fo*1 2 4;3fi*1 3 4;3SIX*1 4 4;3ONE BAN2;3TWO BAN2;3j BAN2",
  "3fo BAN2;5*1 2e 5;3fi*2 2 4;3NIGIDAMIN;3NIGIDAESH;3ONE ESHE3;3TWO ESHE3;3ONE THIRD DISH",
  "3TWO THIRDS DISH;3fi SIXTHS DISH;3ONE THIRD VARIANT f A;3TWO THIRDS*1 1 5;3ONE EIGHTH ASH",
  "4qa ASH;3OLD ASSYRIAN ONE SIXTH;6qa;3ONE qa GUR;4hl GUR;3ELAMITE ONE THIRD;4TWO THIRDS;4FORTY",
  "4FIFTY;3fo U*1 255 3;3fi*1 1 4;3SIX*1 2 4;3se*1 3 4;3ei*1 4 4;3ni*1 5 4",
  "12470:1pu s OLD ASSYRIAN WORD DIVIDER;3v COLON;3da COLON;4TRICOLON;4QUADCOLON",
  "12480:1s AB ti NUN TENU;4SHU2;2AD ti ESH2;2BAD ti DISH TENU;2BAHAR2 ti AB2;4NI;4ZA",
  "2BU ov BU ti NA2;2DA ti TAK4;2DAG ti KUR;2DIM ti IGI;4U U U;2DIM2 ti UD;2DUG*1 9d 3;4ASH;5AT e",
  "4DIN;4DUN;4ERIN2;4GA;4GI;4GIR2 GUNU;4GISH;4HA;4HI;3*2 37c 3;4KUR;4KUSHU2;5pl KASKAL;4LAK-020",
  "4*2 239 2;4LUH pl GISH;4MASH;4MES;4MI;4NI;4PI;4SHE;4SI GUNU;2E2 ti KUR;4PAP;2ERIN2 X",
  "2ESH2 cs ESH2;2EZEN SHESHIG ti ASH;4*2 16 3;5LA;5LAL;5ME;5MES;5SU;3ti SU;2GA2 ti BAHAR2",
  "4DIM GUNU;4*2 1f 2;4EREN;4GA;4GAR pl DI;6NE;4HA pl A;3*1 22 3;4*2 25a 2;4LUH;4MUSH;4NE;5pl E2",
  "6GI;4SHIM;4ZIZ2;2GABA*1 c4 3;2GESHTIN ti U;2GISH*1 2ef 3;2GU2*1 44a 3;2GUD pl*1 347 2",
  "2HA TENU GUNU;2HI ti ASH ov*1 32f 2;2KA ti BU;4KA;4U U U;4UR;2LAGAB ti ZU ov ZU;2LAK-003",
  "2LAK-021;2LAK-025;2LAK-030;2LAK-050;+1;2LAK-062;2LAK-079 ov LAK-079 GUNU;2LAK-080",
  "2LAK-081 ov LAK-081;2LAK-092;2LAK-130;2LAK-142;2LAK-210;2LAK-219;+1;2LAK-225;2LAK-228;2LAK-238",
  "2LAK-265;+1;2LAK-343;2LAK-347;+1;2LAK-383;+1;2LAK-390;2LAK-441;2LAK-449;3ti GU;4IGI;4PAP pl LU3",
  "6*1 1 4;4U2 pl BA;2LAK-450;2LAK-457;2LAK-470;2LAK-483;2LAK-490;2LAK-492;+1;2LAK-495;2LAK-550",
  "2LAK-608;2LAK-617;3ti ASH;4BAD;4*1 40b 2;4KU3;4LA;4TAR;4TE;4U2;4UD;4URUDA;2LAK-636;2LAK-648",
  "3ti DUB;4GA;4IGI;5GUNU;4NI;3*1 1e 3;4SHESH pl KI;3*2 b 3;2LAK-724;2LAK-749;2LU2 GUNU ti ASH",
  "3ti DISH;4HAL;4PAP;3*1 28 3;4TAK4;2MI pl ZA7;2MUSH ov MUSH ti GA;6KAK;2NINDA2*1 6b 3;4GISH;4GUL",
  "4HI;4KESH2;4LAK-050;4MASH;3*1 44e 4;4U;5pl U;4URUDA;2SAG GUNU ti HA;3ti EN;4SHE AT e;4TAK4",
  "2SHA6 TENU;2SHE ov SHE;3pl HUB2;4NAM2;4SAR;2SHU2 pl*1 91 2;4E2 ti AN;2SI*1 8 3;2TAK4 pl SAG",
  "2TUM*1 4c5 3;4j DISH;2UR2 in;3ti UD;2URU ti DARA3;4LAK-668;4LU3;2ZA7;2ZU ov ZU pl SAR",
  "2ZU5 ti j*1 c0 4;12f90:0CYPRO-MINOAN s CM001;+1;2CM004;+8;2CM012B;2CM013;2CM015;2CM017;2CM019",
  "2CM021;2CM023;+7;2CM033;+8;2CM044;2CM046;+1;2CM049;+7;2CM058;+6;2CM066;+9;2CM075B;2CM076;2CM078",
  "+e;2CM094;+b;2CM107;+3;2CM112;2CM114;2CM301;+1;13000:0EGYPTIAN HIEROGLYPH A001;+4;2A005A;2A006",
  "2A006A;2A006B;2A007;+7;2A014A;2A015;+2;2A017A;2A018;+e;2A032A;2A033;+7;2A040A;2A041;+1;2A042A",
  "2A043;2A043A;2A044;+1;2A045A;2A046;+18;2B001;+4;2B005A;2B006;+3;2C001;+1;2C002A;2C002B;2C002C",
  "2C003;+7;2C010A;2C011;+d;2D001;+7;2D008A;2D009;+12;2D027A;2D028;+3;2D031A;2D032;+2;2D034A;2D035",
  "+b;2D046A;2D047;+1;2D048A;2D049;+1;2D050A;2D050B;2D050C;2D050D;2D050E;2D050F;2D050G;2D050H",
  "2D050I;2D051;+1;2D052A;2D053;+1;2D054A;2D055;+c;2D067A;2D067B;2D067C;2D067D;2D067E;2D067F",
  "2D067G;2D067H;2E001;+7;2E008A;2E009;2E009A;2E010;+6;2E016A;2E017;2E017A;2E018;+2;2E020A;2E021",
  "+7;2E028A;2E029;+5;2E034A;2E036;+2;2F001;2F001A;2F002;+b;2F013A;2F014;+7;2F021A;2F022;+9;2F031A",
  "2F032;+5;2F037A;2F038;2F038A;2F039;+6;2F045A;2F046;2F046A;2F047;2F047A;2F048;+3;2F051A;2F051B",
  "2F051C;2F052;+1;2G001;+5;2G006A;2G007;2G007A;2G007B;2G008;+3;2G011A;2G012;+8;2G020A;2G021;+5",
  "2G026A;2G027;+9;2G036A;2G037;2G037A;2G038;+5;2G043A;2G044;+1;2G045A;2G046;+8;2H001;+5;2H006A",
  "2H007;+1;2I001;+4;2I005A;2I006;+3;2I009A;2I010;2I010A;2I011;2I011A;2I012;+3;2K001;+7;2L001;+1",
  "2L002A;2L003;+3;2L006A;2L007;+1;2M001;2M001A;2M001B;2M002;+1;2M003A;2M004;+6;2M010A;2M011;+1",
  "2M012A;2M012B;2M012C;2M012D;2M012E;2M012F;2M012G;2M012H;2M013;+2;2M015A;2M016;2M016A;2M017",
  "2M017A;2M018;+4;2M022A;2M023;+1;2M024A;2M025;+3;2M028A;2M029;+2;2M031A;2M032;+1;2M033A;2M033B",
  "2M034;+6;2M040A;2M041;+3;2N001;+11;2N018A;2N018B;2N019;+6;2N025A;2N026;+7;2N033A;2N034;2N034A",
  "2N035;2N035A;2N036;+1;2N037A;2N038;+4;2NL001;+4;2NL005A;2NL006;+b;2NL017A;2NL018;+2;2NU001;+9",
  "2NU010A;2NU011;2NU011A;2NU012;+6;2NU018A;2NU019;+3;2NU022A;2O001;2O001A;2O002;+3;2O005A;2O006",
  "2O006A;2O006B;2O006C;2O006D;2O006E;2O006F;2O007;+3;2O010A;2O010B;2O010C;2O011;+8;2O019A;2O020",
  "2O020A;2O021;+3;2O024A;2O025;2O025A;2O026;+3;2O029A;2O030;2O030A;2O031;+2;2O033A;2O034;+2",
  "2O036A;2O036B;2O036C;2O036D;2O037;+d;2O050A;2O050B;2O051;2P001;2P001A;2P002;+1;2P003A;2P004;+7",
  "2Q001;+6;2R001;+1;2R002A;2R003;2R003A;2R003B;2R004;+6;2R010A;2R011;+5;2R016A;2R017;+c;2S001;+1",
  "2S002A;2S003;+3;2S006A;2S007;+7;2S014A;2S014B;2S015;+2;2S017A;2S018;+8;2S026A;2S026B;2S027;+8",
  "2S035A;2S036;+a;2T001;+2;2T003A;2T004;+3;2T007A;2T008;2T008A;2T009;2T009A;2T010;+1;2T011A;2T012",
  "+4;2T016A;2T017;+f;2T032A;2T033;2T033A;2T034;+2;2U001;+5;2U006A;2U006B;2U007;+10;2U023A;2U024",
  "+5;2U029A;2U030;+2;2U032A;2U033;+9;2V001;2V001A;2V001B;2V001C;2V001D;2V001E;2V001F;2V001G",
  "2V001H;2V001I;2V002;2V002A;2V003;+4;2V007A;2V007B;2V008;+3;2V011A;2V011B;2V011C;2V012;2V012A",
  "2V012B;2V013;+7;2V020A;2V020B;2V020C;2V020D;2V020E;2V020F;2V020G;2V020H;2V020I;2V020J;2V020K",
  "2V020L;2V021;+2;2V023A;2V024;+4;2V028A;2V029;2V029A;2V030;2V030A;2V031;2V031A;2V032;+1;2V033A",
  "2V034;+3;2V037A;2V038;+2;2V040A;2W001;+2;2W003A;2W004;+5;2W009A;2W010;2W010A;2W011;+3;2W014A",
  "2W015;+2;2W017A;2W018;2W018A;2W019;+5;2W024A;2W025;2X001;+3;2X004A;2X004B;2X005;+1;2X006A;2X007",
  "+1;2X008A;2Y001;2Y001A;2Y002;+6;2Z001;+1;2Z002A;2Z002B;2Z002C;2Z002D;2Z003;2Z003A;2Z003B;2Z004",
  "2Z004A;2Z005;2Z005A;2Z006;+9;2Z015A;2Z015B;2Z015C;2Z015D;2Z015E;2Z015F;2Z015G;2Z015H;2Z015I",
  "2Z016;2Z016A;2Z016B;2Z016C;2Z016D;2Z016E;2Z016F;2Z016G;2Z016H;2AA001;+6;2AA007A;2AA007B;2AA008",
  "+18;13430:2v JOINER;2z JOINER;2INSERT AT TOP START;4bo START;4TOP END;4bo END;2OVERLAY mi",
  "2BEGIN SEGMENT;2END*1 1 3;14400:0ANATOLIAN*5 438 1;+5;2A010A;2A011;+f;2A026A;2A027;+c;2A039A",
  "2A040;+1;2A041A;2A042;+3;1*2 433 1;2A046A;2A046B;1*14 435 1;2A066A;2A066B;2A066C;2A067;+1e",
  "2A097A;2A098;2A098A;2A099;+1;2A100A;2A101;2A101A;2A102;2A102A;2A103;+1;2A104A;2A104B;2A104C",
  "2A105;2A105A;2A105B;2A106;+1;2A107A;2A107B;2A107C;2A108;+2;2A110A;2A110B;2A111;+4;2A115A;2A116",
  "+9;2A125A;2A126;+9;2A135A;2A136;+42;2A202A;2A202B;2A203;+4;2A207A;2A208;+1;2A209A;2A210;+5",
  "2A215A;2A216;2A216A;2A217;+a;2A227A;2A228;+27;2A267A;2A268;+15;2A289A;2A290;+4;2A294A;2A295;+4",
  "2A299A;2A300;+9;2A309A;2A310;+13;2A329A;2A330;+1;2A332A;2A332B;2A332C;2A333;+3;2A336A;2A336B",
  "2A336C;2A337;+16;2A359A;2A360;+4;2A364A;2A365;+3;2A368A;2A369;+2;2A371A;2A372;+9;2A381A;2A382",
  "2A383 RA OR RI;2A383A;2A384;+2;2A386A;2A387;+5;2A393 ei;2A394;+f;2A410 BEGIN LOGOGRAM x",
  "2A410A END*1 1 4;2A411;+27;2A450A;2A451;+6;2A457A;2A458;+27;2A501;+1d",
  "16800:0BAMUM l PHASE-A NGKUE MFON;3GBIEE FON;3PON MFON PIPAEMGBIEE;5PIPAEMBA;3NAA MFON",
  "3SHUENSHUET;3TITA MFON;3NZA MFON;3SHINDA PA NJI;3PON PA NJI*2 7 5;3MAEMBGBIEE;3TU MAEMBA",
  "3NGANGU;3MAEMVEUX;3MANSUAE;3MVEUAENGAM;3SEUNYAM;3NTOQPEN;3KEUKEUTNDA;3NKINDI;3SUU;3NGKUENZEUM",
  "3LAPAQ;3LET KUT;3NTAP MFAA;3MAEKEUP;3PASHAE;3GHEUAERAE;3PAMSHAE;3MON NGGEUAET;3NZUN MEUT",
  "3U YUQ NAE;3GHEUAEGHEUAE;3NTAP NTAA;3SISA;3MGBASA;3MEUNJOMNDEUQ;3MOOMPUQ;3KAFA;3PA LEERAEWA",
  "3NDA*1 1 4;3PET;3MAEMKPEN;3NIKA;3PUP;3TUAEP;3LUAEP;3SONJAM;3TEUTEUWEN;3MAENYI;3KET",
  "3NDAANGGEUAET;3KUOQ;3MOOMEUT;3SHUM;3LOMMAE;3FIRI;3ROM;3KPOQ;3SOQ;3MAP PIEET;3SHIRAE;3NTAP",
  "3SHOQ NSHUT YUM;3NYIT MONGKEUAEQ;3PAARAE;3NKAARAE;3UNKNOWN;3NGGEN;3MAESI;3NJAM;3MBANYI;3NYET",
  "3TEUAEN;3SOT;3PAAM;3NSHIEE;3MAEM;3NYI;3KAQ;3NSHA;3VEE;3LU;3NEN;3NAQ;3MBAQ;2PHASE-B NSHUET",
  "3TU MAEMGBIEE;3SIEE;3SET TU;3LOM NTEUM;3MBA MAELEE;3KIEEM;3YEURAE;3MBAARAE;3KAM;3PEESHI",
  "3YAFU*1 3a 4;3LAM NSHUT NYAM;3NTIEE SHEUOQ;3NDU NJAA;3GHEUGHEUAEM;3PIT;3TU NSIEE;3SHET NJAQ",
  "3SHEUAEQTU;3MFON TEUAEQ;3MBIT MBAAKET;3NYI NTEUM;3KEUPUQ;3GHEUGHEN;3KEUYEUX;3LAANAE;3PARUM",
  "3VEUM;3NGKINDI MVOP;3NGGEU MBU;3WUAET;3SAKEUAE;3TAAM;3MEUQ;3NGGUOQ;4la;3MFIYAQ;3SUE;3MBEURI",
  "3MONTIEEN;3NYAEMAE;3PUNGAAM;3MEUT NGGEET;3FEUX;3MBUOQ;3FEE;3KEUAEM;3MA NJEUAENA;4NJUQA;3LET",
  "3NGGAAM;3NSEN;3MA;3KIQ;3NGOM;2PHASE-C NGKUE MAEMBA;3NZA;3YUM;3WANGKUOQ;3NGGEN;3NDEUAEREE;3NGKAQ",
  "3GHARAE;3MBEEKEET;3GBAYI;3NYIR MKPARAQ MEUN;3NTU MBIT;3MBEUM;3PIRIEEN;3NDOMBU",
  "3MBAA CABBAGE-TREE;3KEUSHEUAEP;3GHAP;3KEUKAQ;3YU MUOMAE;3NZEUM;3MBUE;3NSEUAEN;3MBIT;3YEUQ",
  "3KPARAQ;3KAA;3SEUX;3NDIDA;3TAASHAE;3NJUEQ;3TITA YUE;3SUAET;3NGGUAEN NYAM;3VEUX;3NANSANAQ",
  "3MA KEUAERI;3NTAA;3NGGUON;3LAP;3MBIRIEEN;3MGBASAQ;3NTEUNGBA;3TEUTEUX;3NGGUM;3FUE;3NDEUT;3NSA",
  "3NSHAQ;3BUNG;3VEUAEPEN;3MBERAE;3RU;3NJAEM;3LAM;3TITUAEP;3NSUOT NGOM;3NJEEEE;3KET;3NGGU;3MAESI",
  "3MBUAEM;3LU;3KUT;3NJAM;3NGOM;3WUP;3NGGUEET;3NSOM;3NTEN;3KUOP NKAARAE;3NSUN;3NDAM;3MA NSIEE;3YAA",
  "3NDAP;3SHUEQ;3SETFON;3MBI;3MAEMBA;3MBANYI;3KEUSEUX;3MBEUX;3KEUM;3MBAA PICKET;3YUWOQ;3NJEUX",
  "3MIEE;3MUAE;3SHIQ;3KEN LAW;4FATIGUE;3NGAQ;3NAQ;3LIQ;3PIN;3PEN;3TET;2PHASE-D MBUO;3WAP;3NJI",
  "3MFON;3NJIEE;3LIEE;3NJEUT;3NSHEE;3NGGAAMAE;3NYAM;3WUAEN;3NGKUN;3SHEE;3NGKAP;3KEUAETMEUN;3TEUT",
  "3SHEUAE;3NJAP;3SUE;3KET;3YAEMMAE;3KUOM;3SAP;3MFEUT;3NDEUX;3MALEERI;3MEUT;3SEUAEQ;3YEN;3NJEUAEM",
  "3KEUOT MBUAE;3NGKEURI;3TU;3GHAA;3NGKYEE;3FEUFEUAET;3NDEE;3MGBOFUM;3LEUAEP;3NDON;3MONI;3MGBEUN",
  "3PUUT;3MGBIEE;3MFO;3LUM;3NSIEEP;3MBAA;3KWAET;3*3 d9 3;3YUWOQ;3KEUM;3RAEM;3TEEEE;3NGKEUAEQ",
  "3MFEUAE;3NSIEET;3KEUP;3PIP;3PEUTAE;3NYUE;3*2 a7 3;3MFIEE;3NGGWAEN;3YUOM;3PAP;3YUOP;3NDAM;3NTEUM",
  "3SUAE;3KUN;3NGGEUX;3NGKIEE;3TUOT;3MEUN;3KUQ;3NSUM;3TEUN;3MAENJET;3NGGAP;3LEUM;3NGGUOM;3NSHUT",
  "3NJUEQ;3GHEUAE;3KU;3REN OLD;3TAE;3TOQ;3NYI;3RII;3LEEEE;3MEEEE;3M;3SUU;3MU;3SHII;3SHEUX;3KYEE",
  "3NU;3SHU;3NTEE;3PEE;3NI;3SHOQ;3PUQ;3MVOP;3LOQ;3REN MUCH;3TI;3NTUU;3MBAA se;3SAQ;3FAA",
  "2PHASE-E NDAP;3TOON;3MBEUM;3LAP;3VOM;3LOON;3PAA;3SOM;3RAQ;3NSHUOP;3NDUN;3PUAE;3TAM;3NGKA;3KPEUX",
  "3WUO;3SEE;3NGGEUAET;3PAAM;3TOO;3KUOP;3LOM;3NSHIEE;3NGOP;3MAEM;3NGKEUX;3NGOQ;3NSHUE;3RIMGBA",
  "3NJEUX;3PEEM;3SAA;3NGGURAE;3MGBA;3GHEUX;3NGKEUAEM;3NJAEMLI;3MAP;3LOOT;3NGGEEEE;3NDIQ",
  "3TAEN NTEUM;3SET;3PUM;3NDAA SOFTNESS;3NGGUAESHAE NYAM;3YIEE;3GHEUN;3TUAE;3YEUAE;3PO;3TUMAE",
  "3KEUAE;3SUAEN;3TEUAEQ;3VEUAE;3WEUX;3LAAM;3PU;3TAAQ;3GHAAMAE;3NGEUREUT;3SHEUAEQ;3MGBEN;3MBEE",
  "3NZAQ;3NKOM;3GBET;3TUM;3KUET;3YAP;3NYI CLEAVER;3YIT;3MFEUQ;3NDIAQ;3PIEEQ;3YUEQ;3LEUAEM;3FUE",
  "3GBEUX;3NGKUP;3KET;3MAE;3NGKAAMI;3GHET;3FA;3NTUM;3PEUT;3YEUM;3NGGEUAE;3NYI BETWEEN;3NZUQ;3POON",
  "3MIEE;3FUET;3NAE;3MUAE;3GHEUAE;3FU I;3MVI;3PUAQ;3NGKUM;3KUT;3PIET;3NTAP;3YEUAET;3NGGUP",
  "3PA PEOPLE;3FU CALL;3FOM;3NJEE;3A;3TOQ;3O;3I;3LAQ;3PA PLURAL;3TAA;3TAQ;3NDAA MY HOUSE;3SHIQ",
  "3YEUX;3NGUAE;3YUAEN;3YOQ SWIMMING;4COVER;3YUQ;3YUN;3KEUX;3PEUX;3NJEE EPOCH;3PUE;3WUE;3FEE;3VEE",
  "3LU;3MI;3REUX;3RAE;3NGUAET;3NGA;3SHO;3SHOQ;3FU REMEDY;3NA;3PI;3LOQ;3KO;3MEN;3MA;3MAQ;3TEU;3KI",
  "3MON;3TEN;3FAQ;3GHOM;2PHASE-F KA;3U;3KU;3EE;3REE;3TAE;3NYI;3LA;3RII;3RIEE;3MEEEE;3TAA;3NDAA",
  "3NJAEM;3M;3SUU;3SHII;3SI;3SEUX;3KYEE;3KET;3NUAE;3NU;3NJUAE;3YOQ;3SHU;3YA;3NSHA;3PEUX;3NTEE;3WUE",
  "3PEE;3RU;3NI;3REUX;3KEN;3NGKWAEN;3NGGA;3SHO;3PUAE;3FOM;3WA;3LI;3LOQ;3KO;3MBEN;3REN;3MA;3MO",
  "3MBAA;3TET;3KPA;3SAMBA;3VUEQ;16a40:0MRO l TA;2NGI;2YO;2MIM;2BA;2DA;2A;2PHI;2KHAI;2HAO;2DAI;2CHU",
  "2KEAAE;2OL;2MAEM;2NIN;2PA;2OO;2O;2RO;2SHI;2THEA;2EA;2WA;2E;2KO;2LAN;2LA;2HAI;2RI;2TEK",
  "16a60:1dg ze;2ONE;2TWO;2j;2fo;2fi;2SIX;2se;2ei;2ni;16a6e:1DANDA;1d DANDA;0TANGSA l OZ;2OC;2OQ",
  "2OX;2AZ;2AC;2AQ;2AX;2VZ;2VC;2VQ;2VX;2EZ;2EC;2EQ;2EX;2IZ;2IC;2IQ;2IX;2UZ;2UC;2UQ;2UX;2AWZ;2AWC",
  "2AWQ;2AWX;2UIZ;2UIC;2UIQ;2UIX;2n NG;2ln UEX;2sh UEZ;3AWX;2UEC;2UEZ;2UEQ;2UEX;2UIUZ;2UIUC;2UIUQ",
  "2UIUX;2MZ;2MC;2MQ;2MX;2KA;2KHA;2GA;2NGA;2SA;2YA;2WA;2PA;2NYA;2PHA;2BA;2MA;2NA;2HA;2LA;2HTA;2TA",
  "2DA;2RA;2NHA;2SHA;2CA;2TSA;2GHA;2HTTA;2THA;2XA;2FA;2DHA;2CHA;2ZA;16ac0:1*a 5b 1",
  "16ad0:0BASSA VAH l ENNI;3KA;3SE;3FA;3MBE;3YIE;3GAH;3DHII;3KPAH;3JO;3HWAH;3WA;3ZO;3GBU;3DO;3CE",
  "3UWU;3TO;3BA;3VU;3YEIN;3PA;3WADDA;3A;3O;3OO;3U;3EE;3E;3I;16af0:2co hg to;3LOW to;3MID to",
  "3LOW-MID to;3HIGH-LOW to;2FULL so;16b00:0PAHAWH HMONG vo KEEB;3KEEV;3KIB;3KIV;3KAUB;3KAUV;3KUB",
  "3KUV;3KEB;3KEV;3KAIB;3KAIV;3KOOB;3KOOV;3KAWB;3KAWV;3KUAB;3KUAV;3KOB;3KOV;3KIAB;3KIAV;3KAB;3KAV",
  "3KWB;3KWV;3KAAB;3KAAV;2cn VAU;3NTSAU;3LAU;3HAU;3NLAU;3RAU;3NKAU;3QHAU;3YAU;3HLAU;3MAU;3CHAU",
  "3NCHAU;3HNAU;3PLHAU;3NTHAU;3NAU;3AU;3XAU;3CAU;2x CIM TUB;4SO;4KES;4KHAV;4SUAM;4HOM;4TAUM",
  "2s VOS THOM;4TSHAB CEEB;3CIM CHEEM;3VOS THIAB;4FEEM;3XYEEM NTXIV;4RHO;4TOV;4FAIB;3VOS SEEV",
  "3MEEJ SUAB;3VOS NRUA;3IB YAM;3XAUS;3CIM TSOV ROG;16b50:2*a cf 1;16b5b:2nu TENS;3HUNDREDS",
  "3TEN THOUSANDS;3MILLIONS;3hu*1 1 3;3TEN BILLIONS;3TRILLIONS;16b63:2s VOS LUB;3XYOO;3HLI",
  "3THIRD-STAGE HLI;3ZWJ THAJ;3HNUB;3NQIG;3XIAB;3NTUJ;3AV;3TXHEEJ CEEV;3MEEJ TSEEB;3TAU;3LOS;3MUS",
  "3CIM HAIS LUS NTOG NTOG;4CUAM TSHOOJ;4TXWV;5CHWV;4PUB DAWB;4NRES TOS;16b7d:2CLAN s TSHEEJ;4YEEG",
  "4LIS;4LAUJ;4XYOOJ;4KOO;4HAWJ;4MUAS;4THOJ;4TSAB;4PHAB;4KHAB;4HAM;4VAJ;4FAJ;4YAJ;4TSWB;4KWM;4VWJ",
  "16e40:0MEDEFAIDRIN c l M;3S;3V;3W;3ATIU;3Z;3KP;3P;3T;3G;3F;3I;3K;3A;3J;3E;3B;3C;3U;3YU;3L;3Q",
  "3HP;3NY;3X;3D;3OE;3N;3R;3O;3AI;3Y;1m*20 20 2;1*a 148 1;1nu TEN;2ELEVEN;2TWELVE;2THIRTEEN",
  "2FOURTEEN;2FIFTEEN;2SIXTEEN;2SEVENTEEN;2EIGHTEEN;2NINETEEN;1dg ONE aa f;2TWO aa f;2j aa f;1cm",
  "1FULL so;1y AIVA;1ex OH;16f00:0MIAO l PA;2BA;2YI PA;2PLA;2MA;2MHA;2ARCHAIC MA;2FA;2VA;2VFA;2TA",
  "2DA;2YI TTA;3TA;2TTA;2DDA;2NA;2NHA;2YI NNA;2ARCHAIC NA;2NNA;2NNHA;2LA;2LYA;2LHA;2LHYA;2TLHA",
  "2DLHA;2TLHYA;2DLHYA;2KA;2GA;2YI KA;2QA;2QGA;2NGA;2NGHA;2ARCHAIC NGA;2HA;2XA;2GHA;2GHHA;2TSSA",
  "2DZZA;2NYA;2NYHA;2TSHA;2DZHA;2YI*2 2 2;2REFORMED TSHA;2SHA;2SSA;2ZHA;2ZSHA;2TSA;2DZA;2YI TSA",
  "2SA;2ZA;2ZSA;2ZZA;2ZZSA;2ARCHAIC ZZA;2ZZYA;2ZZSYA;2WA;2AH;2HHA;2BRI;2SYI;2DZYI;2TE;2TSE;2RTE",
  "16f4f:1s cn mf BAR;1l NASALIZATION;1s ASPIRATION;2REFORMED VOICING;3*1 2 2;1vo s A;3AA;3AHH;3AN",
  "3ANG;3O;3OO;3WO;3W;3E;3EN;3ENG;3OEY;3I;3IA;3IAN;3IANG;3IO;3IE;3II;3IU;3ING;3U;3UA;3UAN;3UANG",
  "3UU;3UEI;3UNG;3Y;3YI;3AE;3AEE;3ERR;3ROUNDED ERR;3ER;3ROUNDED ER;3AI;3EI;3AU;3OU;3N;3NG;3UOG",
  "3YUI;3OG;3OER;3VW;3IG;3EA;3IONG;3UI;16f8f:1to r;2TOP r;2b;2p;1l TONE-2;+6;2REFORMED TONE-1;+1",
  "3TONE-4;+2;3TONE-8;16fe0:0TANGUT ITERATION x;0NUSHU*1 1 1;0OLD CHINESE ho x;2*1 3 1",
  "0KHITAN m SCRIPT FILLER;16ff0:0VIETNAMESE aa READING x CA;4NHAY;18800:0TANGUT COMPONENT-001",
  "+2ff;1aff0:0KATAKANA l MINNAN TONE-2;+3;1aff5:3TONE-7;+1;3NASALIZED TONE-1;+4;1affd:4TONE-7;+1",
  "1b000:2ARCHAIC E;0HIRAGANA l ARCHAIC YE;0HENTAIGANA l A-1;+2;2A-WO;2I-1;+3;2U-1;+4;2E-2;+4;2O-1",
  "+2;2KA-1;+a;2KA-KE;2KI-1;+7;2KU-1;+6;2KE-1;+5;2KO-1;+2;2KO-KI;2SA-1;+7;2SI-1;+5;2SU-1;+7;2SE-1",
  "+4;2SO-1;+6;2TA-1;+3;2TI-1;+6;2TU-1;+3;2TU-TO;2TE-1;+8;2TO-1;+5;2TO-RA;2NA-1;+8;2NI-1;+6;2NI-TE",
  "2NU-1;+2;2NE-1;+5;2NE-KO;2NO-1;+4;2HA-1;+a;2HI-1;+6;2HU-1;+2;2HE-1;+6;2HO-1;+7;2MA-1;+6;2MI-1",
  "+6;2MU-1;+3;2ME-1;+1;2ME-MA;2MO-1;+5;2YA-1;+4;2YA-YO;2YU-1;+3;2YO-1;+5;2RA-1;+3;2RI-1;+6;2RU-1",
  "+5;2RE-1;+3;2RO-1;+5;2WA-1;+4;2WI-1;+4;2WE-1;+3;2WO-1;+6;2N-MU-MO-1;+1;0HIRAGANA l ARCHAIC WU",
  "0KATAKANA l ARCHAIC YI;3YE;3WU;1b150:0HIRAGANA l m WI;3WE;3WO;1b164:0KATAKANA*3 3 1;3N",
  "1bc00:0DUPLOYAN l H;2X;2P;2T;2F;2K;2L;2B;2D;2V;2G;2R;2P N;2D S;2F N;2K M;2R S;2TH;2SLOAN DH;2DH",
  "2KK;2SLOAN J;2HL;2LH;2RH;2M;2N;2J;2S;2M N;2N M;2J M;2S J;2M w DOT;2N w DOT;2J w DOT",
  "4dt INSIDE k b;2S w DOT;5p;2M S;2N S;2J S;2S S;2M N S;2N M S;2J M S;2S J S;2J*1 a 2;3N;4S;2S T",
  "4R;3P;4R;2T S;3R S;2W;2WH;2W R;2S N;3M;2K R S;2G R S;2S K;4R;2A;2SLOAN OW;2OA;2O;2AOU;2I;2E;2IE",
  "2sh I;2UI;2EE;2SLOAN EH;2ROMANIAN I;2SLOAN EE;2ln I;2YE;2U;2EU;2XW;2U N;2ln U;2ROMANIAN U;2UH",
  "2SLOAN U;2OOH;2OW;2OU;2WA;2WO;2WI;2WEI;2WOW;2NASAL U;3O;3I;3A;2PERNIN AN;3AM;2SLOAN EN;3AN;3ON",
  "2vc M;1bc70:1AFFIX e z SECANT;2MID*1 1 3;2r*1 2 3;2LOW v SECANT;2MID*1 1 3;2hg*1 2 3",
  "2ATTACHED SECANT;3LEFT-TO-RIGHT SECANT;3TANGENT;3TAIL;3E ho;3I ho;3TANGENT ho;1bc80:2hg ac",
  "3TIGHT ac;3ga;3ln ga;3DOT;3ci;3lc;3WAVE;3v;1bc90:2LOW*9 9 3;3a;1bc9c:1s O w cb",
  "1THICK l SELECTOR;1d x;1pu CHINOOK FULL so;0SHORTHAND FORMAT l OVERLAP;2CONTINUING*1 1 3",
  "2dw STEP;2UP STEP;1cf00:0ZNAMENNY co x GORAZDO NIZKO S KRYZHEM ON e;3*1 1 4;3TSATA ON e",
  "3GORAZDO NIZKO ON e;3*1 1 4;3SREDNE ON e;3MALO POVYSHE ON e;3*1 1 4;3VYSOKO ON e",
  "3MALO POVYSHE S KHOKHLOM ON e;3*1 1 4;3VYSOKO*1 2 5;3GORAZDO NIZKO S KRYZHEM ON r;3*1 1 4",
  "3TSATA ON r;3GORAZDO NIZKO ON r;3*1 1 4;3SREDNE ON r;3MALO POVYSHE ON r;3*1 1 4;3VYSOKO ON r",
  "3MALO POVYSHE S KHOKHLOM ON r;3*1 1 4;3VYSOKO*1 2 5;3TSATA S KRYZHEM;3MALO POVYSHE*1 1 4",
  "3STRANNO MALO POVYSHE;3*1 2 4;4STRANNO;3VYSOKO*1 5 4;3MALO*1 2 3;3GORAZDO VYSOKO;3ZELO;3ON",
  "3RAVNO;3TIKHAYA;3BORZAYA;3UDARKA;3PODVERTKA;3LOMKA;3KUPNAYA;3KACHKA;3ZEVOK;3SKOBA;3RAZSEKA",
  "3KRYZH ON e;1cf30:2TONAL RANGE x MRACHNO;5SVETLO;5TRESVETLO;2x ZADERZHKA;3DEMESTVENNY*1 1 3",
  "3OTSECHKA;3PODCHASHIE;4w v st;3CHASHKA;4POLNAYA;3OBLACHKO;3SOROCHYA NOZHKA;3TOCHKA;3DVOETOCHIE",
  "2ATTACHING v OMET;2x CURVED OMET;3KRYZH;2lo TONAL RANGE INDICATOR;1PRIZNAK mf LEVEL-2;+1",
  "3DIRECTION FLIP;3KRYZH;3ROG;1cf50:1NEUME KRYUK;3TIKHY;2PARAKLIT;2DVA V CHELNU;2KLYUCH;2ZANOZHEK",
  "2STOPITSA;3S OCHKOM;2PEREVODKA;3NEPOSTOYANNAYA;2STOPITSA w*1 16 3;2CHELYUSTKA;2PALKA;2ZAPYATAYA",
  "2GOLUBCHIK BORZY;3TIKHY;3MRACHNY;3SVETLY;3TRESVETLY;2VRAKHIYA PROSTAYA;3MRACHNAYA;3SVETLAYA",
  "3TRESVETLAYA;3KLYUCHEVAYA*4 4 3;2d*1 e 2;2re*1 11 2;2DERBITSA;2KHAMILO;2CHASHKA;2*1 31 3",
  "2SKAMEYTSA*3 d 3;3TIKHAYA;2DEMESTVENNY KLYUCH;2SKAMEYTSA*1 d 3;3KLYUCHENEPOSTOYANNAYA",
  "3KLYUCHEVAYA*1 4 3;3DVOECHELNAYA*1 16 3;4*1 8 3;4*1 22 3;4KLYUCHEVAYA;2SLOZHITIE;3S ZAPYATOY",
  "3ZAKRYTOE;3*1 5d 4;2*2 33 3;2FITA;2KOBYLA;2ZMEYTSA;2STATYA;3*1 9 3;4KRYZHEM;4ZAPYATOY I*1 9 4",
  "4KRYZHEM I*1 c 4;3ZAKRYTAYA;4*1 e 3;3S ROGOM;4DVUMYA ZAPYATYMI;4ZAPYATOY I PODCHASHIEM",
  "2POLKULIZMY;2STATYA*1 38 3;2STRELA*1 2f 3;3MRACHNOTIKHAYA;3KRYZHEVAYA;3POLUPOVODNAYA;3POVODNAYA",
  "3*1 3e 3;3KLYUCHEPOVODNAYA;3*1 22 3;3TIKHAYA PUTNAYA;3DVOECHELNAYA;3DVOECHELNOKRYZHEVAYA",
  "3DVOECHELNOPOVODNAYA;3*1 22 3;3DVOECHELNOPOVODNAYA*1 23 4;3GROMNAYA w si*1 43 2",
  "3GROMOPOVODNAYA*1 1 4;3GROMNAYA;3GROMOPOVODNAYA;4w*1 39 2;3GROMOKRYZHEVAYA;4*1 10 3;2MECHIK",
  "3POVODNY;3KLYUCHEVOY;3KLYUCHEPOVODNY;3KLYUCHENEPOSTOYANNY;2STRELA TRYASOGLASNAYA",
  "3TRYASOPOVODNAYA;3TRYASOSTRELNAYA;2OSOKA;3*2 4b 3;3KRYUKOVAYA*1 4d 3;3*1 4a 3;4*1 5b 3",
  "2STRELA KRYUKOVAYA;4*1 20 3;4*7 17 3;4TRYASKA;2KUFISMA;2OBLAKO;2DUDA;2NEMKA;2PAUK"]

end Dalvik.Text
