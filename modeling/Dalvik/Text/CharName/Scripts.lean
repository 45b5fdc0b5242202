/-!
Names of the characters of scripts of India, South-East Asia, Africa and America. The entries are in
the form that `addNames` reads.
-/

namespace Dalvik.Text

def scriptNames : List String := [
  "900:0DEVANAGARI s in ca;2ca;2an;2vi;1l sh A;2A;2AA;2I;2II;2U;2UU;2vc R;3L;2CANDRA E;2sh E;2E",
  "2AI;2CANDRA O;2sh O;2O;2AU;2KA;2KHA;2GA;2GHA;2NGA;2CA;2CHA;2JA;2JHA;2NYA;2TTA;2TTHA;2DDA;2DDHA",
  "2NNA;2TA;2THA;2DA;2DHA;2NA;2NNNA;2PA;2PHA;2BA;2BHA;2MA;2YA;2RA;2RRA;2LA;2LLA;2LLLA;2VA;2SHA",
  "2SSA;2SA;2HA;1vo s OE;3OOE;1s NUKTA;2AVAGRAHA;1vo s*6 38 2;4RR;3*8 38 2;1s vr",
  "1vo s PRISHTHAMATRA E;3AW;1OM;1STRESS s UDATTA;3ANUDATTA;1ga ad;1ac ad;1vo s CANDRA ln E;3UE",
  "3UUE;1l QA;2KHHA;2GHHA;2ZA;2DDDHA;2RHA;2FA;2YYA;2vc RR;3LL;1vo s vc L;4LL;1DANDA;1d DANDA",
  "1dg ze;2ONE;2TWO;2j;2fo;2fi;2SIX;2se;2ei;2ni;1ab s;1s hg SPACING DOT;1l CANDRA A;2OE;2OOE;2AW",
  "2UE;2UUE;2MARWARI DDA;2ZHA;2he YA;2GGA;2JJA;2GLOTTAL so;2DDDA;2BBA;0BENGALI ANJI;1*3 80 1",
  "985:1*8 7f 1;98f:2E;2AI;993:1*16 7b 1;9aa:1*7 7a 1;9b2:2LA;9b6:1*4 76 1;9bc:1*9 74 1;9c7:3E;3AI",
  "9cb:1*3 70 1;1l KHANDA TA;9d7:1AU LENGTH x;9dc:1l RRA;2RHA;9df:1*5 63 1;9e6:1*a 61 1",
  "1l RA w mi da;4lo da;1RUPEE x;2s;1CURRENCY NUMERATOR*4 6e 2;3ONE LESS THAN THE DENOMINATOR",
  "2DENOMINATOR SIXTEEN;1ISSHAR;1GANDA x;1l VEDIC an;1ab s;1SANDHI x;a01:0GURMUKHI s ADAK BINDI",
  "2BINDI;2vi;a05:1*6 de 1;a0f:2EE;2AI;a13:2OO;1*15 d8 1;a2a:1*7 d7 1;a32:2LA;2LLA;a35:2VA;2SHA",
  "a38:2SA;2HA;a3c:1s NUKTA;a3e:1*5 d1 1;a47:3EE;3AI;a4b:3OO;3AU;1s vr;a51:2UDAAT;a59:1*3 c1 1",
  "2RRA;a5e:2FA;a66:1*a b9 1;1TIPPI;1ADDAK;1IRI;1URA;1EK ONKAR;1s YAKASH;1ab s",
  "a81:0GUJARATI*3 12f 1;a85:1*8 12e 1;1vo*1 f6 3;a8f:1l E;2AI;1vo*1 f5 3;a93:1*16 12c 1",
  "aaa:1*7 12b 1;ab2:2LA;2LLA;ab5:1*5 129 1;abc:1*a 127 1;ac7:3*3 15e 2;acb:1*3 125 1;ad0:1OM",
  "ae0:1*4 114 1;ae6:1*b 112 1;1RUPEE s;af9:1l ZHA;1s SUKUN;2SHADDA;2MADDAH;2THREE-DOT NUKTA b",
  "2ci*1 1 3;2TWO-CIRCLE*1 2 3;b01:0ORIYA*3 18a 1;b05:1*8 189 1;b0f:2E;2AI;b13:1*16 185 1",
  "b2a:1*7 184 1;b32:2LA;2LLA;b35:1*5 182 1;b3c:1*9 180 1;b47:3E;3AI;b4b:1*3 17c 1;b55:2OVERLINE",
  "1AI LENGTH x;1*1 10d 1;b5c:1*2 10d 1;b5f:1*5 170 1;b66:1*a 16e 1;1ISSHAR;1l WA;1FRACTION ONE qa",
  "3hl;2j QUARTERS;2ONE SIXTEENTH;3EIGHTH;2j SIXTEENTHS;b82:0TAMIL*2 b5 1;b85:1*6 1e3 1;b8e:2E;2EE",
  "2AI;b92:2O;1*3 107 1;b99:2NGA;2CA;b9c:2JA;b9e:2NYA;2TTA;ba3:2NNA;2TA;ba8:1*3 1d4 1",
  "bae:1*c 1d1 1;bbe:1*5 1cd 1;bc6:3*3 22 2;bca:3O;1*3 fe 1;bd0:1OM;bd7:1*1 159 1;be6:1*a 1b3 1",
  "1nu TEN;2ONE hu;3th;1DAY s;1MONTH s;1YEAR s;1DEBIT s;1CREDIT s;1AS b s;1RUPEE s;1nu s",
  "c00:0TELUGU s co ca b;1*3 22e 1;2co an b;1*8 22e 1;c0e:1*3 4d 1;c12:2O;1*16 154 1",
  "c2a:1*10 22b 1;c3c:1*9 229 1;c46:3*3 80 2;c4a:1*4 5e 1;c55:1LENGTH x;1*1 ab 1;c58:1l TSA;2DZA",
  "2RRRA;c5d:2NAKAARA POLLU;c60:1*4 21b 1;c66:1*a 219 1;c77:1s SIDDHAM",
  "1FRACTION dg ze FOR ODD POWERS OF fo;3ONE*1 1 4;3TWO*1 2 4;3j*1 3 4;3ONE FOR EVEN*1 4 6",
  "3TWO*1 1 4;3j*1 2 4;1s TUUMU;0KANNADA s SPACING ca;1*3 292 1;2SIDDHAM;1*8 292 1;c8e:1*3 b1 1",
  "c92:1*17 64 1;caa:1*a 28f 1;cb5:1*5 28e 1;cbc:1*9 28c 1;cc6:3*3 e3 2;cca:1*4 c1 1;cd5:1*2 63 1",
  "cdd:1*1 60 1;2FA;ce0:1*4 27c 1;ce6:1*a 27a 1;cf1:1s JIHVAMULIYA;2UPADHMANIYA",
  "d00:0MALAYALAM*1 ba 1;1*3 2ec 1;1*1 213 1;1*8 2ec 1;d0e:2*3 e9 3;d12:2O;2OO;1*26 2ea 1;2TTTA",
  "1s v BAR vr;2CIRCULAR vr;1*8 2ea 1;d46:3*3 f4 2;d4a:1*4 11f 1;1l DOT REPH;1s PARA",
  "d54:1l CHILLU M;3Y;3LLL;1*1 27c 1;1FRACTION ONE ONE-HUNDRED-AND-SIXTIETH;3FORTIETH",
  "2j EIGHTIETHS;2ONE TWENTIETH;3TENTH;2j TWENTIETHS;2ONE FIFTH;1l ARCHAIC II;1*4 2e4 1",
  "d66:1*d 12f 1;1*6 175 1;1DATE x;1l CHILLU NN;3N;3RR;3L;3LL;3K;d81:0SINHALA s ca;2ANUSVARAYA",
  "2VISARGAYA;d85:1l AYANNA;2AAYANNA;2AEYANNA;2AEEYANNA;2IYANNA;2IIYANNA;2UYANNA;2UUYANNA",
  "2IRUYANNA;2IRUUYANNA;2ILUYANNA;2ILUUYANNA;2EYANNA;2EEYANNA;2AIYANNA;2OYANNA;2OOYANNA;2AUYANNA",
  "d9a:2ALPAPRAANA KAYANNA;2MAHAAPRAANA*1 1 3;2ALPAPRAANA GAYANNA;2MAHAAPRAANA*1 1 3",
  "2KANTAJA NAASIKYAYA;2SANYAKA*1 3 3;2ALPAPRAANA CAYANNA;2MAHAAPRAANA*1 1 3;2ALPAPRAANA JAYANNA",
  "2MAHAAPRAANA*1 1 3;2TAALUJA*1 6 3;3SANYOOGA NAAKSIKYAYA;2SANYAKA*1 4 3;2ALPAPRAANA TTAYANNA",
  "2MAHAAPRAANA*1 1 3;2ALPAPRAANA DDAYANNA;2MAHAAPRAANA*1 1 3;2MUURDHAJA NAYANNA;2SANYAKA*1 3 3",
  "2ALPAPRAANA TAYANNA;2MAHAAPRAANA*1 1 3;2ALPAPRAANA DAYANNA;2MAHAAPRAANA*1 1 3;2DANTAJA*1 6 3",
  "db3:2SANYAKA*1 3 3;2ALPAPRAANA PAYANNA;2MAHAAPRAANA*1 1 3;2ALPAPRAANA BAYANNA",
  "2MAHAAPRAANA*1 1 3;2MAYANNA;2AMBA*1 3 3;2YAYANNA;2RAYANNA;dbd:2DANTAJA LAYANNA;dc0:2VAYANNA",
  "2TAALUJA SAYANNA;2MUURDHAJA*1 1 3;2DANTAJA*1 2 3;2HAYANNA;2MUURDHAJA*1 6 3;2FAYANNA",
  "dca:1s AL-LAKUNA;dcf:1vo s AELA-PILLA;3KETTI AEDA-PILLA;3DIGA*1 1 4;3KETTI IS-PILLA;3DIGA*1 1 4",
  "3KETTI PAA-PILLA;dd6:3DIGA*1 1 4;dd8:3GAETTA-PILLA;3KOMBUVA;3DIGA*1 1 3;3KOMBU DEKA",
  "3KOMBUVA HAA*1 b 3;5DIGA*1 c 3;5GAYANUKITTA;3*1 1 5;de6:1LITH*a 34a 1;df2:1vo s DIGA*1 12 3",
  "4*1 d 5;1pu KUNDDALIYA;e01:0THAI CHARACTER KO KAI;2KHO KHAI;3KHUAT;3KHWAI;3KHON;3RAKHANG",
  "2NGO NGU;2CHO CHAN;3CHING;3CHANG;2SO SO;2CHO CHOE;2YO YING;2DO CHADA;2TO PATAK;2THO THAN",
  "3NANGMONTHO;3PHUTHAO;2NO NEN;2DO DEK;2TO TAO;2THO THUNG;3THAHAN;3THONG;2NO NU;2BO BAIMAI",
  "2PO PLA;2PHO PHUNG;2FO FA;2PHO PHAN;2FO FAN;2PHO SAMPHAO;2MO MA;2YO YAK;2RO RUA;2RU;2LO LING",
  "2LU;2WO WAEN;2SO SALA;3RUSI;3SUA;2HO HIP;2LO CHULA;2O ANG;2HO NOKHUK;2PAIYANNOI;2SARA A",
  "2MAI HAN-AKAT;2SARA AA;3AM;3I;3II;3UE;3UEE;3U;3UU;2PHINTHU;e3f:1CURRENCY y BAHT",
  "1CHARACTER SARA E;3AE;3O;3AI MAIMUAN;4MAIMALAI;2LAKKHANGYAO;2MAIYAMOK;2MAITAIKHU;2MAI EK;3THO",
  "3TRI;3CHATTAWA;2THANTHAKHAT;2NIKHAHIT;2YAMAKKAN;2FONGMAN;1*a 3a2 1;1CHARACTER ANGKHANKHU",
  "2KHOMUT;e81:0LAO l KO;2KHO SUNG;e84:3TAM;e86:2PALI GHA;2NGO;2CO;2PALI CHA;2SO TAM;e8c:2PALI JHA",
  "2NYO;2PALI*6 400 2;2DO;2TO;2THO*2 11 3;2PALI DHA;2NO;2BO;2PO;2PHO SUNG;2FO TAM;2PHO TAM",
  "2FO SUNG;2PALI BHA;2MO;2YO;2LO LING;ea5:3LOOT;ea7:2WO;2SANSKRIT SHA;3SSA;2SO SUNG;2HO SUNG",
  "2PALI LLA;2O;2HO TAM;1ELLIPSIS;1vo s A;3MAI KAN;3*4 52 3;3Y;3YY;3U;3UU;1s PALI vr;1vo s MAI KON",
  "1SEMIVOWEL s LO;3NYO;ec0:1vo s E;3EI;3O;3AY;3AI;ec6:1KO LA;ec8:1to*2 52 2;3TI;3CATAWA",
  "1CANCELLATION x;1NIGGAHITA;ed0:1*a 3f2 1;edc:1HO NO;2MO;1l KHMU GO;3NYO",
  "f00:0TIBETAN SYLLABLE OM;1x GTER YIG MGO TRUNCATED A;5-UM RNAM BCAD MA;6GTER TSHEG MA",
  "2h YIG MGO MDUN MA;2CLOSING YIG MGO SGAB MA;2CARET YIG MGO PHUR SHAD MA;2YIG MGO TSHEG*1 1 6",
  "2SBRUL SHAD;2BSKUR YIG MGO;2BKA- SHOG*1 1 3;2INTERSYLLABIC TSHEG;2DELIMITER TSHEG BSTAR;2SHAD",
  "2NYIS SHAD;2TSHEG SHAD;2NYIS*1 1 2;2RIN CHEN SPUNGS SHAD;2RGYA GRAM SHAD",
  "2CARET -DZUD RTAGS ME ln CAN;2GTER TSHEG;1LOGOTYPE s CHAD RTAGS;3LHAG RTAGS",
  "1ASTROLOGICAL s SGRA GCAN -CHAR RTAGS;3-KHYUD PA;3SDONG TSHUGS;1s RDEL DKAR GCIG;4GNYIS;4GSUM",
  "3NAG*2 3 4;3DKAR RDEL NAG;1*a 420 1;2hl*9 9 2;3ze;1x BSDUS RTAGS;2NGAS BZUNG NYI ZLA",
  "2CARET -DZUD RTAGS BZHI MIG CAN;2NGAS BZUNG SGOR RTAGS;2CHE MGO;2TSA -PHRU;2GUG RTAGS GYON",
  "4GYAS;2ANG KHANG*2 2 4;1s YAR TSHES;2MAR TSHES;1*8 491 1;f49:1*10 415 1;2TSA;2TSHA;2DZA;2DZHA",
  "2WA;2ZHA;2ZA;2-A;1*7 41d 1;2A;2KSSA;2FIXED-FORM RA;2KKA;2RRA;f71:1*7 494 1;4L;4LL;3E;3EE;3O;3OO",
  "1s RJES SU NGA RO;2RNAM BCAD;1vo s re I;4II;1s NYI ZLA NAA DA;2SNA LDAN;1x HALANTA;2PALUTA",
  "1s LCI RTAGS;2YANG RTAGS;2LCE TSA CAN;2MCHU CAN;2GRU CAN RGYINGS;3MED*1 1 4;2in*1 3 2",
  "1SUBJOINED*2 5 1;2*1 3 1;2*8 4dc 1;f99:2*21 4b 1;3FIXED-FORM WA;4YA;4RA;fbe:1KU RU KHA;4*1 82 5",
  "1CANTILLATION s he BEAT;3li BEAT;3CANG TE-U;3SBUB -CHAL;1y DRIL BU;2RDO RJE;2PADMA GDAN",
  "2RDO RJE RGYA GRAM;2PHUR PA;2NOR BU;4NYIS -KHYIL;4GSUM -KHYIL;4BZHI -KHYIL",
  "fce:1s RDEL NAG RDEL DKAR;4GSUM;1x BSKA- SHOG GI MGO RGYAN;2MNYAM YIG*1 1 4;2NYIS TSHEG",
  "2h BRDA RNYING*1 c7 3;2CLOSING BRDA RNYING*1 c7 3;0RIGHT-FACING SVASTI s;0LEFT-FACING*1 1 1",
  "0RIGHT-FACING SVASTI s w dt;0LEFT-FACING*1 1 1;0TIBETAN x LEADING MCHAN RTAGS;2TRAILING*1 1 3",
  "1000:0MYANMAR*a 524 1;2NNYA;1*12 4aa 1;2WA;2SA;2HA;2LLA;2A;2SHAN A;1*5 372 1;2MON E;2O;2AU",
  "1vo s TALL AA;3*6 37c 2;3AI;3MON II;4O;3E b;1s an;2DOT p;2vi;2vr;2ASAT;1cn s md YA;4RA;4WA;4HA",
  "1l GREAT SA;1*a 513 1;1s lt SECTION;2SECTION;1y LOCATIVE;2COMPLETED;2AFOREMENTIONED;2GENITIVE",
  "1*2 553 1;2*4 b4 3;1*4 b8 1;1l MON NGA;3JHA;3BBA;3BBE;1cn s MON md NA;5MA;5LA;1l SGAW KAREN SHA",
  "1vo s SGAW KAREN EU;1to x SGAW KAREN HATHI;5KE PHO;1l WESTERN PWO KAREN THA;5PWA",
  "1vo s WESTERN PWO*1 5 4;6UE;1s WESTERN PWO KAREN TONE-1;+4;1l EASTERN PWO KAREN NNA;5YWA;5GHWA",
  "1vo s GEBA KAREN I;3KAYAH OE;4U;4EE;1l SHAN*3 599 2;3CA;3ZA;3NYA;3DA;3NA;3PHA;3FA;3BA;3THA;3HA",
  "1cn s SHAN md WA;1vo s SHAN AA;4E;5b;4n Y;1s SHAN TONE-2;+1;3TONE-5;+1;3COUNCIL*2 4 3",
  "4EMPHATIC to;1l RUMAI PALAUNG FA;1s RUMAI PALAUNG TONE-5;1SHAN*a 563 1;1s KHAMTI TONE-1;3TONE-3",
  "1vo s AITON A;4AI;1y SHAN ONE;3ex;0GEORGIAN c l AN;3BAN;3GAN;3DON;3EN;3VIN;3ZEN;3TAN;3IN;3KAN",
  "3LAS;3MAN;3NAR;3ON;3PAR;3ZHAR;3RAE;3SAN;3TAR;3UN;3PHAR;3KHAR;3GHAN;3QAR;3SHIN;3CHIN;3CAN;3JIL",
  "3CIL;3CHAR;3XAN;3JHAN;3HAE;3HE;3HIE;3WE;3HAR;3HOE;10c7:3YN;10cd:3AEN;10d0:1*26 28 2;2FI;2YN",
  "2ELIFI;2tu GAN;2AIN;1PARAGRAPH sp;0mf l GEORGIAN NAR;0GEORGIAN l AEN;2HARD s;2LABIAL s",
  "0HANGUL CHOSEONG KIYEOK;2SSANGKIYEOK;2NIEUN;2TIKEUT;2SSANGTIKEUT;2RIEUL;2MIEUM;2PIEUP",
  "2SSANGPIEUP;2SIOS;2SSANGSIOS;2IEUNG;2CIEUC;2SSANGCIEUC;2CHIEUCH;2KHIEUKH;2THIEUTH;2PHIEUPH",
  "2HIEUH;2NIEUN-KIYEOK;2SSANGNIEUN;2NIEUN-TIKEUT;2NIEUN-PIEUP;2TIKEUT-KIYEOK;2RIEUL-NIEUN",
  "2SSANGRIEUL;2RIEUL-HIEUH;2KAPYEOUNRIEUL;2MIEUM-PIEUP;2KAPYEOUNMIEUM;2PIEUP-KIYEOK;2PIEUP-NIEUN",
  "2PIEUP-TIKEUT;2PIEUP-SIOS;2PIEUP-SIOS-KIYEOK;2PIEUP-SIOS-TIKEUT;2PIEUP-SIOS-PIEUP",
  "2PIEUP-SSANGSIOS;2PIEUP-SIOS-CIEUC;2PIEUP-CIEUC;2PIEUP-CHIEUCH;2PIEUP-THIEUTH;2PIEUP-PHIEUPH",
  "2KAPYEOUNPIEUP;2KAPYEOUNSSANGPIEUP;2SIOS-KIYEOK;2SIOS-NIEUN;2SIOS-TIKEUT;2SIOS-RIEUL",
  "2SIOS-MIEUM;2SIOS-PIEUP;2SIOS-PIEUP-KIYEOK;2SIOS-SSANGSIOS;2SIOS-IEUNG;2SIOS-CIEUC",
  "2SIOS-CHIEUCH;2SIOS-KHIEUKH;2SIOS-THIEUTH;2SIOS-PHIEUPH;2SIOS-HIEUH;2CHITUEUMSIOS",
  "2CHITUEUMSSANGSIOS;2CEONGCHIEUMSIOS;2CEONGCHIEUMSSANGSIOS;2PANSIOS;2IEUNG-KIYEOK;2IEUNG-TIKEUT",
  "2IEUNG-MIEUM;2IEUNG-PIEUP;2IEUNG-SIOS;2IEUNG-PANSIOS;2SSANGIEUNG;2IEUNG-CIEUC;2IEUNG-CHIEUCH",
  "2IEUNG-THIEUTH;2IEUNG-PHIEUPH;2YESIEUNG;2CIEUC-IEUNG;2CHITUEUMCIEUC;2CHITUEUMSSANGCIEUC",
  "2CEONGCHIEUMCIEUC;2CEONGCHIEUMSSANGCIEUC;2CHIEUCH-KHIEUKH;2CHIEUCH-HIEUH;2CHITUEUMCHIEUCH",
  "2CEONGCHIEUMCHIEUCH;2PHIEUPH-PIEUP;2KAPYEOUNPHIEUPH;2SSANGHIEUH;2YEORINHIEUH;2KIYEOK-TIKEUT",
  "2NIEUN-SIOS;2NIEUN-CIEUC;2NIEUN-HIEUH;2TIKEUT-RIEUL;2FILLER;1JUNGSEONG FILLER;2A;2AE;2YA;2YAE",
  "2EO;2E;2YEO;2YE;2O;2WA;2WAE;2OE;2YO;2U;2WEO;2WE;2WI;2YU;2EU;2YI;2I;2A-O;2A-U;2YA-O;2YA-YO;2EO-O",
  "2EO-U;2EO-EU;2YEO-O;2YEO-U;2O-EO;2O-E;2O-YE;2O-O;2O-U;2YO-YA;2YO-YAE;2YO-YEO;2YO-O;2YO-I;2U-A",
  "2U-AE;2U-EO-EU;2U-YE;2U-U;2YU-A;2YU-EO;2YU-E;2YU-YEO;2YU-YE;2YU-U;2YU-I;2EU-U;2EU-EU;2YI-U;2I-A",
  "2I-YA;2I-O;2I-U;2I-EU;2I-ARAEA;2ARAEA;2ARAEA-EO;2ARAEA-U;2ARAEA-I;2SSANGARAEA;2A-EU;2YA-U",
  "2YEO-YA;2O-YA;2O-YAE;1JONGSEONG*2 a8 2;2KIYEOK-SIOS;2NIEUN;2*2 50 2;2TIKEUT;2RIEUL",
  "2RIEUL-KIYEOK;2RIEUL-MIEUM;2RIEUL-PIEUP;2RIEUL-SIOS;2RIEUL-THIEUTH;2RIEUL-PHIEUPH;2*1 9c 2",
  "2*2 b1 2;2*1 98 2;2*4 b1 2;2*5 b0 2;2KIYEOK-RIEUL;2KIYEOK-SIOS-KIYEOK;2*1 b2 2;2*1 b1 2",
  "2*1 6c 2;2NIEUN-PANSIOS;2NIEUN-THIEUTH;2*1 b3 2;2*1 6d 2;2RIEUL-KIYEOK-SIOS;2*1 b5 2",
  "2RIEUL-TIKEUT;2RIEUL-TIKEUT-HIEUH;2*1 b7 2;2RIEUL-MIEUM-KIYEOK;2RIEUL-MIEUM-SIOS",
  "2RIEUL-PIEUP-SIOS;2RIEUL-PIEUP-HIEUH;2RIEUL-KAPYEOUNPIEUP;2RIEUL-SSANGSIOS;2RIEUL-PANSIOS",
  "2RIEUL-KHIEUKH;2RIEUL-YEORINHIEUH;2MIEUM-KIYEOK;2MIEUM-RIEUL;2*1 c0 2;2MIEUM-SIOS",
  "2MIEUM-SSANGSIOS;2MIEUM-PANSIOS;2MIEUM-CHIEUCH;2MIEUM-HIEUH;2*1 c5 2;2PIEUP-RIEUL;2*1 ba 2",
  "2PIEUP-HIEUH;2*1 bb 2;2*1 ba 2;2*2 b9 2;2*1 b8 2;2*2 ab 2;2IEUNG-SSANGKIYEOK;2*1 a7 2",
  "2IEUNG-KHIEUKH;2YESIEUNG;2YESIEUNG-SIOS;2YESIEUNG-PANSIOS;2*2 9d 2;2HIEUH-NIEUN;2HIEUH-RIEUL",
  "2HIEUH-MIEUM;2HIEUH-PIEUP;2*1 a0 2;2KIYEOK-NIEUN;2KIYEOK-PIEUP;2KIYEOK-CHIEUCH;2KIYEOK-KHIEUKH",
  "2KIYEOK-HIEUH;2*1 eb 2;0ETHIOPIC SYLLABLE HA;2HU;2HI;2HAA;2HEE;2HE;2HO;2HOA;2LA;2LU;2LI;2LAA",
  "2LEE;2LE;2LO;2LWA;2HHA;2HHU;2HHI;2HHAA;2HHEE;2HHE;2HHO;2HHWA;2MA;2MU;2MI;2MAA;2MEE;2ME;2MO;2MWA",
  "2SZA;2SZU;2SZI;2SZAA;2SZEE;2SZE;2SZO;2SZWA;2RA;2RU;2RI;2RAA;2REE;2RE;2RO;2RWA;2SA;2SU;2SI;2SAA",
  "2SEE;2SE;2SO;2SWA;2SHA;2SHU;2SHI;2SHAA;2SHEE;2SHE;2SHO;2SHWA;2QA;2QU;2QI;2QAA;2QEE;2QE;2QO;2QOA",
  "2QWA;124a:2QWI;2QWAA;2QWEE;2QWE;1250:2QHA;2QHU;2QHI;2QHAA;2QHEE;2QHE;2QHO;1258:2QHWA;125a:2QHWI",
  "2QHWAA;2QHWEE;2QHWE;1260:2BA;2BU;2BI;2BAA;2BEE;2BE;2BO;2BWA;2VA;2VU;2VI;2VAA;2VEE;2VE;2VO;2VWA",
  "2TA;2TU;2TI;2TAA;2TEE;2TE;2TO;2TWA;2CA;2CU;2CI;2CAA;2CEE;2CE;2CO;2CWA;2XA;2XU;2XI;2XAA;2XEE;2XE",
  "2XO;2XOA;2XWA;128a:2XWI;2XWAA;2XWEE;2XWE;1290:2NA;2NU;2NI;2NAA;2NEE;2NE;2NO;2NWA;2NYA;2NYU;2NYI",
  "2NYAA;2NYEE;2NYE;2NYO;2NYWA;2GLOTTAL A;3U;3I;3AA;3EE;3E;3O;3WA;2KA;2KU;2KI;2KAA;2KEE;2KE;2KO",
  "2KOA;2KWA;12b2:2KWI;2KWAA;2KWEE;2KWE;12b8:2KXA;2KXU;2KXI;2KXAA;2KXEE;2KXE;2KXO;12c0:2KXWA",
  "12c2:2KXWI;2KXWAA;2KXWEE;2KXWE;12c8:2WA;2WU;2WI;2WAA;2WEE;2WE;2WO;2WOA;2PHARYNGEAL*7 29 3",
  "12d8:2ZA;2ZU;2ZI;2ZAA;2ZEE;2ZE;2ZO;2ZWA;2ZHA;2ZHU;2ZHI;2ZHAA;2ZHEE;2ZHE;2ZHO;2ZHWA;2YA;2YU;2YI",
  "2YAA;2YEE;2YE;2YO;2YOA;2DA;2DU;2DI;2DAA;2DEE;2DE;2DO;2DWA;2DDA;2DDU;2DDI;2DDAA;2DDEE;2DDE;2DDO",
  "2DDWA;2JA;2JU;2JI;2JAA;2JEE;2JE;2JO;2JWA;2GA;2GU;2GI;2GAA;2GEE;2GE;2GO;2GOA;2GWA;1312:2GWI",
  "2GWAA;2GWEE;2GWE;1318:2GGA;2GGU;2GGI;2GGAA;2GGEE;2GGE;2GGO;2GGWAA;2THA;2THU;2THI;2THAA;2THEE",
  "2THE;2THO;2THWA;2CHA;2CHU;2CHI;2CHAA;2CHEE;2CHE;2CHO;2CHWA;2PHA;2PHU;2PHI;2PHAA;2PHEE;2PHE;2PHO",
  "2PHWA;2TSA;2TSU;2TSI;2TSAA;2TSEE;2TSE;2TSO;2TSWA;2TZA;2TZU;2TZI;2TZAA;2TZEE;2TZE;2TZO;2TZOA;2FA",
  "2FU;2FI;2FAA;2FEE;2FE;2FO;2FWA;2PA;2PU;2PI;2PAA;2PEE;2PE;2PO;2PWA;2RYA;2MYA;2FYA",
  "135d:1co GEMINATION k vo LENGTH x;2*1 1 4;2GEMINATION x;1SECTION x;1WORDSPACE;1FULL so;1cm",
  "1SEMICOLON;1COLON;1PREFACE COLON;1qe x;1*1 256 1;1*a 669 1;2tw;2THIRTY;2FORTY;2FIFTY;2SIXTY;2sv",
  "2EIGHTY;2nn;2hu;2TEN th;1380:1SYLLABLE SEBATBEIT MWA;2MWI;2MWEE;2MWE;2SEBATBEIT BWA;2BWI;2BWEE",
  "2BWE;2SEBATBEIT FWA;2FWI;2FWEE;2FWE;2SEBATBEIT PWA;2PWI;2PWEE;2PWE;1TONAL x YIZET;3DERET",
  "3RIKRIK;3sh RIKRIK;3DIFAT;3KENAT;3CHIRET;3HIDET;3DERET-HIDET;3KURT;13a0:0CHEROKEE l A;2E;2I;2O",
  "2U;2V;2GA;2KA;2GE;2GI;2GO;2GU;2GV;2HA;2HE;2HI;2HO;2HU;2HV;2LA;2LE;2LI;2LO;2LU;2LV;2MA;2ME;2MI",
  "2MO;2MU;2NA;2HNA;2NAH;2NE;2NI;2NO;2NU;2NV;2QUA;2QUE;2QUI;2QUO;2QUU;2QUV;2SA;2S;2SE;2SI;2SO;2SU",
  "2SV;2DA;2TA;2DE;2TE;2DI;2TI;2DO;2DU;2DV;2DLA;2TLA;2TLE;2TLI;2TLO;2TLU;2TLV;2TSA;2TSE;2TSI;2TSO",
  "2TSU;2TSV;2WA;2WE;2WI;2WO;2WU;2WV;2YA;2YE;2YI;2YO;2YU;2YV;2MV;13f8:1m*6 6 1",
  "1400:0CANADIAN SYLLABICS HYPHEN;2E;2AAI;2I;2II;2O;2OO;2Y-CREE OO;2CARRIER EE;3I;2A;2AA;2WE",
  "2we WE;2WI;2we WI;2WII;2we WII;2WO;2we WO;2WOO;2we WOO;2NASKAPI WOO;2WA;2we WA;2WAA;2we WAA",
  "2NASKAPI WAA;2AI;2Y-CREE W;2*1 8ae 2;2n ac;3ga;3bo hl rn;3TOP hl rn;3r hl rn;3rn;3d ac",
  "4sh v STROKES;3mi DOT;3sh z st;3pl;3dw TACK;2EN;2IN;2ON;2AN;2PE;2PAAI;2PI;2PII;2PO;2POO",
  "2Y-CREE POO;2CARRIER HEE;3HI;2PA;2PAA;2PWE;2we PWE;2PWI;2we PWI;2PWII;2we PWII;2PWO;2we PWO",
  "2PWOO;2we PWOO;2PWA;2we PWA;2PWAA;2we PWAA;2Y-CREE PWAA;2P;2we P;2CARRIER H;2TE;2TAAI;2TI;2TII",
  "2TO;2TOO;2Y-CREE TOO;2CARRIER DEE;3DI;2TA;2TAA;2TWE;2we TWE;2TWI;2we TWI;2TWII;2we TWII;2TWO",
  "2we TWO;2TWOO;2we TWOO;2TWA;2we TWA;2TWAA;2we TWAA;2NASKAPI TWAA;2T;2TTE;2TTI;2TTO;2TTA;2KE",
  "2KAAI;2KI;2KII;2KO;2KOO;2Y-CREE KOO;2KA;2KAA;2KWE;2we KWE;2KWI;2we KWI;2KWII;2we KWII;2KWO",
  "2we KWO;2KWOO;2we KWOO;2KWA;2we KWA;2KWAA;2we KWAA;2NASKAPI KWAA;2K;2KW;2SOUTH-SLAVEY KEH;3KIH",
  "3KOH;3KAH;2CE;2CAAI;2CI;2CII;2CO;2COO;2Y-CREE COO;2CA;2CAA;2CWE;2we CWE;2CWI;2we CWI;2CWII",
  "2we CWII;2CWO;2we CWO;2CWOO;2we CWOO;2CWA;2we CWA;2CWAA;2we CWAA;2NASKAPI CWAA;2C;2SAYISI TH",
  "2ME;2MAAI;2MI;2MII;2MO;2MOO;2Y-CREE MOO;2MA;2MAA;2MWE;2we MWE;2MWI;2we MWI;2MWII;2we MWII;2MWO",
  "2we MWO;2MWOO;2we MWOO;2MWA;2we MWA;2MWAA;2we MWAA;2NASKAPI MWAA;2M;2we M;2MH;2ATHAPASCAN M",
  "2SAYISI M;2NE;2NAAI;2NI;2NII;2NO;2NOO;2Y-CREE NOO;2NA;2NAA;2NWE;2we NWE;2NWA;2we NWA;2NWAA",
  "2we NWAA;2NASKAPI NWAA;2N;2CARRIER NG;2NH;2LE;2LAAI;2LI;2LII;2LO;2LOO;2Y-CREE LOO;2LA;2LAA;2LWE",
  "2we LWE;2LWI;2we LWI;2LWII;2we LWII;2LWO;2we LWO;2LWOO;2we LWOO;2LWA;2we LWA;2LWAA;2we LWAA;2L",
  "2we L;2md L;2SE;2SAAI;2SI;2SII;2SO;2SOO;2Y-CREE SOO;2SA;2SAA;2SWE;2we SWE;2SWI;2we SWI;2SWII",
  "2we SWII;2SWO;2we SWO;2SWOO;2we SWOO;2SWA;2we SWA;2SWAA;2we SWAA;2NASKAPI SWAA;2S;2ATHAPASCAN S",
  "2SW;2BLACKFOOT S;2MOOSE-CREE SK;2NASKAPI SKW;3S-W;3SPWA;3STWA;3SKWA;3SCWA;2SHE;2SHI;2SHII;2SHO",
  "2SHOO;2SHA;2SHAA;2SHWE;2we SHWE;2SHWI;2we SHWI;2SHWII;2we SHWII;2SHWO;2we SHWO;2SHWOO;2we SHWOO",
  "2SHWA;2we SHWA;2SHWAA;2we SHWAA;2SH;2YE;2YAAI;2YI;2YII;2YO;2YOO;2Y-CREE YOO;2YA;2YAA;2YWE",
  "2we YWE;2YWI;2we YWI;2YWII;2we YWII;2YWO;2we YWO;2YWOO;2we YWOO;2YWA;2we YWA;2YWAA;2we YWAA",
  "2NASKAPI YWAA;2Y;2BIBLE-CREE Y;2we Y;2SAYISI YI;2RE;2R-CREE RE;2we LE;2RAAI;2RI;2RII;2RO;2ROO",
  "2we LO;2RA;2RAA;2we LA;2RWAA;2we RWAA;2R;2we R;2md R;2FE;2FAAI;2FI;2FII;2FO;2FOO;2FA;2FAA;2FWAA",
  "2we FWAA;2F;2THE;2N-CREE THE;2THI;2N-CREE THI;2THII;2N-CREE THII;2THO;2THOO;2THA;2THAA;2THWAA",
  "2we THWAA;2TH;2TTHE;2TTHI;2TTHO;2TTHA;2TTH;2TYE;2TYI;2TYO;2TYA;2NUNAVIK HE;3HI;3HII;3HO;3HOO",
  "3HA;3HAA;3H;2NUNAVUT H;2HK;2QAAI;2QI;2QII;2QO;2QOO;2QA;2QAA;2Q;2TLHE;2TLHI;2TLHO;2TLHA;2we RE",
  "3RI;3RO;3RA;2NGAAI;2NGI;2NGII;2NGO;2NGOO;2NGA;2NGAA;2NG;2NNG;2SAYISI*2 87 2;3SHO;3SHA",
  "2WOODS-CREE THE;3THI;3THO;3THA;3TH;2LHI;2LHII;2LHO;2LHOO;2LHA;2LHAA;2LH;2TH-CREE*2 c 3;3THII",
  "3*4 46 2;3TH;2AIVILIK B;2BLACKFOOT E;3I;3O;3A;3*3 1c6 2;3WA;3*3 1f3 2;3NA;3KE;3KI;3KO;3KA",
  "2SAYISI*3 20e 2;3HA;2CARRIER GHU;3GHO;3GHE;3GHEE;3GHI;3GHA;3RU;3RO;3RE;3REE;3RI;3RA;3WU;3WO;3WE",
  "3WEE;3WI;3WA;3HWU;3HWO;3HWE;3HWEE;3HWI;3HWA;3THU;3THO;3THE;3THEE;3THI;3THA;3TTU;3TTO;3TTE;3TTEE",
  "3TTI;3TTA;3PU;3PO;3PE;3PEE;3PI;3PA;3P;3GU;3GO;3GE;3GEE;3GI;3GA;3KHU;3KHO;3KHE;3KHEE;3KHI;3KHA",
  "3KKU;3KKO;3KKE;3KKEE;3KKI;3KKA;3KK;3NU;3NO;3NE;3NEE;3NI;3NA;3MU;3MO;3ME;3MEE;3MI;3MA;3YU;3YO",
  "3YE;3YEE;3YI;3YA;3JU;2SAYISI JU;2CARRIER JO;3JE;3JEE;3JI;2SAYISI JI;2CARRIER JA;3JJU;3JJO;3JJE",
  "3JJEE;3JJI;3JJA;3LU;3LO;3LE;3LEE;3LI;3LA;3DLU;3DLO;3DLE;3DLEE;3DLI;3DLA;3LHU;3LHO;3LHE;3LHEE",
  "3LHI;3LHA;3TLHU;3TLHO;3TLHE;3TLHEE;3TLHI;3TLHA;3TLU;3TLO;3TLE;3TLEE;3TLI;3TLA;3ZU;3ZO;3ZE;3ZEE",
  "3ZI;3ZA;3Z;3h Z;3DZU;3DZO;3DZE;3DZEE;3DZI;3DZA;3SU;3SO;3SE;3SEE;3SI;3SA;3SHU;3SHO;3SHE;3SHEE",
  "3SHI;3SHA;3SH;3TSU;3TSO;3TSE;3TSEE;3TSI;3TSA;3CHU;3CHO;3CHE;3CHEE;3CHI;3CHA;3TTSU;3TTSO;3TTSE",
  "3TTSEE;3TTSI;3TTSA;2CHI s;2FULL so;2QAI;2NGAI;2NNGI;2NNGII;2NNGO;2NNGOO;2NNGA;2NNGAA",
  "2WOODS-CREE THWEE;3THWI;3THWII;3THWO;3THWOO;3THWA;3THWAA;3n TH;2BLACKFOOT W;0OGHAM SPACE x",
  "1l BEITH;2LUIS;2FEARN;2SAIL;2NION;2UATH;2DAIR;2TINNE;2COLL;2CEIRT;2MUIN;2GORT;2NGEADAL;2STRAIF",
  "2RUIS;2AILM;2ONN;2UR;2EADHADH;2IODHADH;2EABHADH;2OR;2UILLEANN;2IFIN;2EAMHANCHOLL;2PEITH",
  "1FEATHER x;1re*1 1 1;16a0:0RUNIC l FEHU FEOH FE F;2V;2URUZ UR U;2YR;2Y;2W;2THURISAZ THURS THORN",
  "2ETH;2ANSUZ A;2OS O;2AC A;2AESC;2LONG-BRANCH-OSS O;2SHORT-TWIG-OSS O;2O;2OE;2ON",
  "2RAIDO RAD REID R;2KAUNA;2CEN;2KAUN K;2G;2ENG;2GEBO GYFU G;2GAR;2WUNJO WYNN W;2HAGLAZ H",
  "2HAEGL H;2LONG-BRANCH-HAGALL H;2SHORT-TWIG-HAGALL H;2NAUDIZ NYD NAUD N;2SHORT-TWIG-NAUD N",
  "2DOTTED-N;2ISAZ IS ISS I;2E;2JERAN J;2GER;2LONG-BRANCH-AR AE;2SHORT-TWIG-AR A;2IWAZ EOH",
  "2PERTHO PEORTH P;2ALGIZ EOLHX;2SOWILO S;2SIGEL LONG-BRANCH-SOL S;2SHORT-TWIG-SOL S;2C;2Z",
  "2TIWAZ TIR TYR T;2SHORT-TWIG-TYR T;2D;2BERKANAN BEORC BJARKAN B;2SHORT-TWIG-BJARKAN B;2DOTTED-P",
  "2OPEN-P;2EHWAZ EH E;2MANNAZ MAN M;2LONG-BRANCH-MADR M;2SHORT-TWIG-MADR M;2LAUKAZ LAGU LOGR L",
  "2DOTTED-L;2INGWAZ;2ING;2DAGAZ DAEG D;2OTHALAN ETHEL O;2EAR;2IOR;2CWEORTH;2CALC;2CEALC;2STAN",
  "2LONG-BRANCH-YR;2SHORT-TWIG-YR;2ICELANDIC-YR;2Q;2X;1si pu;1MULTIPLE pu;1cb pu;1ARLAUG y",
  "1TVIMADUR y;1BELGTHOR y;1l K;2SH;2OO;2FRANKS CASKET OS;4IS;4EH;4AC;4AESC;1700:0TAGALOG l A;2I",
  "2U;2KA;2GA;2NGA;2TA;2DA;2NA;2PA;2BA;1*7 6bc 1;1vo s I;3U;1s vr;2PAMUDPOD;171f:1l ARCHAIC RA",
  "0HANUNOO*14 17 1;1*1 16 1;0PHILIPPINE si pu;1d pu;1740:0BUHID*14 2e 1;1760:0TAGBANWA*d 42 1",
  "176e:1*3 6fd 1;1772:1*2 40 1;1780:0KHMER*2 c42 1;2KO;2KHO;2NGO;2CA;2CHA;2CO;2CHO;2NYO;2DA;2TTHA",
  "2DO;2TTHO;2NNO;2TA;2THA;2TO;2THO;2NO;2BA;2PHA;2PO;2PHO;2MO;2YO;2RO;2LO;2VO;2SHA;2SSO;2SA;2HA",
  "2LA;2QA;1INDEPENDENT vo QAQ;3QAA;3QI;3QII;3QU;3QUK;3QUU;3QUUV;3RY;3RYY;3LY;3LYY;3QE;3QAI",
  "3QOO TYPE ONE;5TWO;3QAU;1vo INHERENT AQ;3AA;2s AA;1*6 84c 1;3UA;3OE;3YA;3IE;3E;3AE;3*3 bb0 2",
  "1s NIKAHIT;2REAHMUK;2YUUKALEAPINTU;2MUUSIKATOAN;2TRIISAP;2BANTOC;2ROBAT;2TOANDAKHIAT;2KAKABAT",
  "2AHSDA;2SAMYOK SANNYA;2VIRIAM;2COENG;2BATHAMASAT;2KHAN;2BARIYOOSAN;2CAMNUC PII KUUH;2LEK TOO",
  "2BEYYAL;2PHNAEK MUAN;2KOOMUUT;1CURRENCY y RIEL;1s AVAKRAHASANYA;2ATTHACAN;17e0:1*a c4f 1",
  "17f0:1y LEK ATTAK SON;4MUOY;4PII;4BEI;4BUON;4PRAM;4PRAM-MUOY;4PRAM-PII;4PRAM-BEI;4PRAM-BUON",
  "1800:0MONGOLIAN BIRGA;1ELLIPSIS;1cm;1FULL so;1COLON;1fo dt;1TODO SOFT HYPHEN",
  "1SIBE SYLLABLE BOUNDARY MARKER;1MANCHU*2 6 1;1NIRUGU;1FREE VARIATION SELECTOR*3 c6d 2;1vo sp",
  "1FREE VARIATION SELECTOR fo;1*a c73 1;1820:1*5 432 1;2OE;2UE;2EE;2NA;2ANG;2BA;2PA;2QA;2GA;2MA",
  "2LA;2SA;2SHA;2TA;2DA;2CHA;2JA;2*3 785 4;2FA;2KA;2KHA;2TSA;2ZA;2HAA;2ZRA;2LHA;2ZHI;2CHI",
  "2TODO ln vo s;3*6 23 2;3*6 21 2;3*4 1e 2;3TSA;3YA;3WA;3KA;3GAA;3HAA;3JIA;3NIA;3DZA;2SIBE E;3I",
  "3IY;3UE;3U;3ANG;3KA;3GA;3HA;3PA;3*3 36 2;3JA;3FA;3GAA;3HAA;3TSA;3ZA;3RAA;3CHA;3ZHA;2MANCHU I",
  "3KA;3RA;3FA;3ZHA;2CHA w TWO dt;1880:2ALI GALI an ONE;4vi ONE;4DAMARU;4UBADAMA;4in*1 1 4;4BALUDA",
  "4j BALUDA;4A;4I;4*3 b51 2;4*3 d29 2;4NNA;4TA;4DA;4PA;4PHA;4SSA;4ZHA;4ZA;4AH;2TODO*1 8 2;5ZHA",
  "2MANCHU ALI GALI*3 d3e 2;5JHA;5TTA;5DDHA;5TA;5DHA;5SSA;5CYA;5ZHA;5ZA;2ALI GALI hl U;5YA",
  "2MANCHU ALI GALI BHA;2ALI GALI DAGALGA;2MANCHU ALI GALI LHA;18b0:0CANADIAN SYLLABICS OY;2AY",
  "2AAY;2WAY;2POY;2PAY;2PWOY;2TAY;2KAY;2KWAY;2MAY;2NOY;2NAY;2LAY;2SOY;2SAY;2SHOY;2SHAY;2SHWOY;2YOY",
  "2YAY;2RAY;2NWI;2OJIBWAY NWI;2NWII;2OJIBWAY NWII;2NWO;2OJIBWAY NWO;2NWOO;2OJIBWAY NWOO;2RWEE",
  "2RWI;2RWII;2RWO;2RWOO;2RWA;2OJIBWAY P;3T;3K;3C;3M;3N;3S;3SH;2EASTERN W;2WESTERN W;2n m rn",
  "3RAISED DOT;2R-CREE RWE;2we LOO;3LAA;2THWE;2THWA;2TTHWE;2TTHOO;2TTHAA;2TLHWE;2TLHOO",
  "2SAYISI SHWE;3SHOO;3HOO;2CARRIER GWU;3DENE GEE;3GAA;3GWA;2SAYISI JUU;2CARRIER JWA",
  "2BEAVER DENE L;4R;2CARRIER DENTAL S;1900:0LIMBU VOWEL-CARRIER l;1*9 d99 1;2YAN;1*e 86f 1",
  "1*4 d90 1;2GYAN;2TRA;1920:1vo s A;3I;3U;3*4 ce6 2;3E;3O;1*2 8c4 1;3WA;1930:1m*2 be4 1;3an;3TA",
  "3NA;3PA;3MA;3RA;3LA;1s MUKPHRENG;2KEMPHRENG;2SA-I;1940:2LOO;1944:1ex x;1qe x;1*a d81 1",
  "0TAI LE l KA;3XA;3NGA;3TSA;3SA;3YA;3TA;3THA;3LA;3PA;3PHA;3MA;3FA;3VA;3HA;3QA;3KHA;3TSHA;3NA;3A",
  "3I;3EE;3EH;3U;3OO;3O;3UE;3E;3AUE;3AI;1970:3TONE-2;+4;1980:0NEW TAI LUE l hg QA;4LOW QA",
  "4hg*3 25 3;4LOW*3 28 3;4hg*3 28 3;4LOW*3 2b 3;4hg TA;5THA;5NA;4LOW*3 3 5;4hg*3 2e 3;4LOW*3 31 3",
  "4hg FA;5VA;5LA;4LOW*3 3 5;4hg HA;5DA;5BA;4LOW*3 3 5;4hg KVA;5XVA;4LOW*2 2 5;4hg SUA;4LOW SUA",
  "19b0:3vo s vo SHORTENER;5AA;5*4 c57 2;5AE;5O;5OA;5UE;5AY;5AAY;5UY;5OY;5OAY;5UEY;5IY;3l n V;5NG",
  "5N;5M;5K;5D;5B;3to MARK-1;+1;19d0:3*a df4 1;3THAM dg ONE;19de:3s LAE;4LAEV;0KHMER y PATHAMASAT",
  "2MUOY KOET;2PII KOET;2BEI KOET;2BUON KOET;2PRAM KOET;2PRAM-MUOY KOET;2PRAM-PII KOET",
  "2PRAM-BEI KOET;2PRAM-BUON KOET;2DAP KOET;2DAP-MUOY KOET;2DAP-PII KOET;2DAP-BEI KOET",
  "2DAP-BUON KOET;2DAP-PRAM KOET;2TUTEYASAT;2MUOY ROC;2PII ROC;2BEI ROC;2BUON ROC;2PRAM ROC",
  "2PRAM-MUOY ROC;2PRAM-PII ROC;2PRAM-BEI ROC;2PRAM-BUON ROC;2DAP ROC;2DAP-MUOY ROC;2DAP-PII ROC",
  "2DAP-BEI ROC;2DAP-BUON ROC;2DAP-PRAM ROC;0BUGINESE*3 281 1;2NGKA;1*3 27f 1;2MPA;1*3 286 1;2NRA",
  "1*3 c9d 1;2NYCA;1*3 dee 1;2VA;2SA;2A;1*3 289 1;3E;3O;3AE;1a1e:1PALLAWA;1END OF SECTION",
  "0TAI THAM l hg KA;4KHA;4KXA;3LOW KA;4KXA;4KHA;3NGA;3hg CA;4CHA;3LOW CA;4SA;4CHA;3NYA;3RATA",
  "3hg RATHA;3DA;3LOW RATHA;3RANA;2*2 95 3;2*2 94 3;3NA;3BA;2*2 95 3;4FA;3LOW PA;4FA;4PHA;3MA",
  "3LOW YA;3hg YA;3RA;3RUE;3LA;3LUE;3WA;3hg*4 e95 2;3LLA;3A;3LOW HA;2*5 ded 1;3OO;3LAE;3GREAT SA",
  "2*1 965 1;5LA;4LA TANG LAI;2s MAI KANG LAI;2cn s n NGA;4LOW PA;4hg RATHA OR LOW PA;4MA;4BA;4SA",
  "1a60:2s SAKOT;2vo s A;4MAI SAT;4AA;4TALL AA;4I;4II;4UE;4UUE;4U;4UU;4O;4OA p;4OY;4E;4AE;4OO;4AI",
  "4THAM AI;4OA b;2s MAI KANG;3TONE-1;+1;3KHUEN TONE-3;+2;3RA HAAM;3MAI SAM;3KHUEN-LUE KARAN",
  "1a7f:2co CRYPTOGRAMMIC DOT;2HORA*a e9c 1;1a90:2THAM*a a 3;1aa0:2s WIANG;3WIANGWAAK;3SAWAN;3KEOW",
  "3HOY;3DOKMAI;3re ro RANA;3MAI YAMOK;3KAAN;3KAANKUU;3SATKAAN;3SATKAANKUU;3HANG;3CAANG",
  "1ab0:0co DOUBLED cr ad;1DIAERESIS-RING;1INFINITY;1do a;1tp DOT;1X-X p;1WIGGLY lc p;1oe x p",
  "1d oe x p;1li CENTRALIZATION st p;1STRONG*1 1 2;1PARENTHESES b;1d*1 1 1;1PARENTHESES p;2OVERLAY",
  "1lb m l W p;4tu W p;1e pa b e;1r pa b r;1e pa p e;1r pa p r;1sq BRACKETS b;1nu s b;1in d ARCH b",
  "1pl s b;1d pl s b;4p;1tp ac ad;1lb m l INSULAR G;5R;5T;1b00:0BALINESE s ULU RICEM;3CANDRA",
  "2CECEK;2SURANG;2BISAH;1l AKARA;3TEDUNG;2IKARA;3TEDUNG;2UKARA;3TEDUNG;2RA REPA;4TEDUNG;2LA LENGA",
  "4TEDUNG;2EKARA;2AIKARA;2OKARA;3TEDUNG;2KA;3MAHAPRANA;2GA;3GORA;2NGA;2CA;3LACA;2JA;3JERA;2NYA",
  "2TA LATIK;3MURDA*1 a 3;2DA MURDA ALPAPRANA;4*1 c 3;2NA RAMBAT;2TA;3TAWA;2DA;3MADU;2NA;2PA",
  "3KAPAL;2BA;3KEMBANG;1*5 a1c 1;2SA SAGA;3SAPA;2SA;2HA;1s REREKAN;1vo s TEDUNG;3ULU;4SARI;3SUKU",
  "4ILUT;3*4 2f 2;3TALING;4REPA;4TEDUNG;4*1 35 3;3PEPET;4TEDUNG;1ADEG ADEG;1l KAF SASAK",
  "2KHOT SASAK;2TZIR SASAK;2EF SASAK;2VE SASAK;2ZAL SASAK;2ASYURA SASAK;2ARCHAIC JNYA",
  "1b50:1*a f2a 1;1PANTI;1PAMADA;1WINDU;1CARIK PAMUNGKAH;2SIKI;2PAREREN;1PAMENENG;1MUSICAL y DONG",
  "3DENG;3DUNG;3DANG;4SURANG;3DING;3DAENG;3DEUNG;3DAING;3DANG GEDE;3co TEGEH;4ENDEP;4KEMPUL",
  "4KEMPLI;4JEGOGAN;4KEMPUL w*1 1 4;4KEMPLI*1 1 5;4BENDE;4GONG;3RIGHT-HAND oe DUG;5DAG;4cl TUK",
  "5TAK;3LEFT-HAND oe PANG;5PUNG;4cl PLAK;5PLUK;4oe PING;1PANTI LANTANG;1PAMADA*1 1 2",
  "1b80:0SUNDANESE s PANYECEK;2PANGLAYAR;2PANGWISAD;1l A;2I;2U;2AE;2O;2E;2EU;2KA;2QA;2GA;1*3 dd7 1",
  "2ZA;2NYA;1*4 3c8 1;2FA;2VA;1*7 3ca 1;2XA;2HA;1cn s PAMINGKAL;3PANYAKRA;3PANYIKU;1vo s PANGHULU",
  "3PANYUKU;3PANAELAENG;3PANOLONG;3PAMEPET;3PANEULEUNG;1s PAMAAEH;2vr;1cn s PASANGAN MA;4WA;1l KHA",
  "2SYA;1*a f89 1;1AVAGRAHA;1l REU;2LEU;2BHA;2n K;3M;0BATAK l A;2SIMALUNGUN A;2HA;2SIMALUNGUN HA",
  "2MANDAILING HA;2BA;2KARO BA;2PA;2SIMALUNGUN PA;2NA;2MANDAILING NA;2WA;2SIMALUNGUN WA;2PAKPAK WA",
  "2GA;2SIMALUNGUN GA;2JA;2DA;2RA;2SIMALUNGUN RA;2MA;2SIMALUNGUN MA;2SOUTHERN TA;2NORTHERN TA;2SA",
  "2SIMALUNGUN SA;2MANDAILING SA;2YA;2SIMALUNGUN YA;2NGA;2LA;2SIMALUNGUN LA;2NYA;2CA;2NDA;2MBA;2I",
  "2U;1s TOMPI;1vo s E;3PAKPAK E;3EE;3I;3KARO I;3O;3KARO O;3U;4FOR*1 16 2;1cn s NG;3H;1PANGOLAT",
  "1PANONGONAN;1bfc:1y BINDU NA METEK;3PINARBORAS;3JUDUL;3*1 5 1;0LEPCHA l KA;2KLA;2KHA;2GA;2GLA",
  "1*5 b92 1;2TA;2THA;1*3 439 1;2PLA;2PHA;2FA;2FLA;2BA;2BLA;2MA;2MLA;1*3 b90 1;1*3 fa8 1;2HA;2HLA",
  "2VA;2SA;2SHA;2WA;2A;1*2 b4a 1;1*2 fab 1;3O;3OO;3U;3UU;3E;1cn s K;3M;3L;3N;3P;3R;3T;3NYIN-DO",
  "3KANG;1s RAN;2NUKTA;1c3b:1pu TA-ROL;2NYET THYOOM TA-ROL;2CER-WA;2TSHOOK CER-WA;2TSHOOK;1*a e4 1",
  "1c4d:1*3 105f 1;0OL CHIKI*a f1 1;2l LA;3AT;3AG;3ANG;3AL;3LAA;3AAK;3AAJ;3AAM;3AAW;3LI;3IS;3IH",
  "3INY;3IR;3LU;3UC;3UD;3UNN;3UY;3LE;3EP;3EDD;3EN;3ERR;3LO;3OTT;3OB;3OV;3OH;2MU TTUDDAG",
  "2GAAHLAA TTUDDAAG;2MU-GAAHLAA*1 1 3;2RELAA;2PHAARKAA;2AHAD;2pu MUCAAD;3d MUCAAD",
  "0CYRILLIC m l ROUNDED VE;3LONG-LEGGED DE;3NARROW O;3WIDE ES;3TALL TE;3THREE-LEGGED TE",
  "3TALL HARD s;4YAT;3UNBLENDED UK;1c90:0GEORGIAN MTAVRULI c*2b ab9 1;1cbd:3*3 ab7 1",
  "0SUNDANESE pu BINDU SURYA;3PANGLONG;3PURNAMA;3CAKRA;3LEU SATANGA;3KA*1 1 4;3DA*1 2 4;3BA*1 3 4",
  "1cd0:0VEDIC to KARSHANA;2SHARA;2PRENKHA;1s NIHSHVASA;2YAJURVEDIC MIDLINE SVARITA",
  "1to YAJURVEDIC AGGRAVATED INDEPENDENT*1 1 4;3*1 1 4;3KATHAKA*1 2 4;2CANDRA p",
  "2YAJURVEDIC KATHAKA INDEPENDENT SVARITA SCHROEDER;2d*1 6 4;2tp*1 7 4;2KATHAKA ANUDATTA;2DOT p",
  "2TWO dt p;2j dt p;2RIGVEDIC KASHMIRI*1 b 4;2ATHARVAVEDIC*1 c 4;1s vi*1 e 4;3UDATTA;2re*1 1 2",
  "2vi*1 9 3;2re*1 1 2;2vi UDATTA w TAIL;3ANUDATTA w TAIL;2an ANTARGOMUKHA;3BAHIRGOMUKHA",
  "3VAMAGOMUKHA;4w TAIL;2TIRYAK;2HEXIFORM ln an;2ln an;2RTHANG ln an;2an UBHAYATO MUKHA",
  "2ARDHAVISARGA;2ro*1 1 2;1to CANDRA b;1*2 e2b 1;2ATIKRAMA;1to rn b;2d rn b;1s d*1 11 2"]

end Dalvik.Text
