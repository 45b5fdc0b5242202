/-!
Variants of letters: characters that names take for other characters, marks that are put in order,
and letters that are made of a letter and a mark. All numbers are hexadecimal; entries are divided
by semicolons.
-/

namespace Dalvik.Text

/-- First and last of a run of variants, and the character that the first one stands for; the
others stand for those that follow it. -/
def variantRuns : List String := [
  "340 341 300;3f1 3f2 3c1;1d30 1d31 44;1d33 1d3a 47;1d40 1d41 54;1d44 1d45 250;1d48 1d49 64",
  "1d4b 1d4c 25b;1d54 1d55 1d16;1d57 1d58 74;1d5d 1d5f 3b2;1d60 1d61 3c6;1d64 1d65 75;1d66 1d67 3b2",
  "1d69 1d6a 3c6;1da4 1da6 268;1dae 1db1 272;1db3 1db4 282;1db6 1db7 289;1db9 1dba 28b;1dbc 1dbe 290",
  "2096 2099 6b;209b 209c 73;2119 211b 50;212c 212d 42;2130 2131 45;2135 2138 5d0;2146 2147 64",
  "2148 2149 69;216d 216e 43;217d 217e 63;3039 303a 5344;3131 3132 1100;3135 3136 11ac",
  "3137 3139 1103;313a 313f 11b0;3141 3143 1106;3145 314e 1109;314f 3163 1161;3165 3166 1114",
  "3167 3168 11c7;3171 3172 111d;3174 3175 1122;3178 317c 112b;3182 3183 11f1;3184 3186 1157",
  "3187 3188 1184;318a 318b 1191;fa52 fa53 798d;fb22 fb23 5d3;fb24 fb26 5db;fb7d fb7e 686",
  "fb9f fba0 6ba;fe8e fe8f 627;fe92 fe93 628;fe94 fe95 629;fe98 fe99 62a;fe9c fe9d 62b;fea0 fea1 62c",
  "fea4 fea5 62d;fea8 fea9 62e;feaa feab 62f;feac fead 630;feae feaf 631;feb0 feb1 632;feb4 feb5 633",
  "feb8 feb9 634;febc febd 635;fec0 fec1 636;fec4 fec5 637;fec8 fec9 638;fecc fecd 639;fed4 fed5 641",
  "fed8 fed9 642;fedc fedd 643;fee0 fee1 644;fee4 fee5 645;fee8 fee9 646;feec feed 647;feee feef 648",
  "fef0 fef1 649;ff10 ff19 30;ff21 ff3a 41;ff41 ff5a 61;ff75 ff76 30aa;ff85 ff8a 30ca;ff8f ff93 30de",
  "ff96 ff9b 30e8;ff9e ff9f 3099;ffa1 ffa2 1100;ffa5 ffa6 11ac;ffa7 ffa9 1103;ffaa ffaf 11b0",
  "ffb1 ffb3 1106;ffb5 ffbe 1109;ffc2 ffc7 1161;ffca ffcf 1167;ffd2 ffd7 116d;ffda ffdc 1173",
  "10781 10782 2d0;1078b 1078c 256;10799 1079a 2aa;107a3 107a4 276;107a8 107a9 27d;107b3 107b4 2a1",
  "107b6 107b8 1c0;1d400 1d419 41;1d41a 1d433 61;1d434 1d44d 41;1d44e 1d454 61;1d456 1d467 69",
  "1d468 1d481 41;1d482 1d49b 61;1d49e 1d49f 43;1d4a5 1d4a6 4a;1d4a9 1d4ac 4e;1d4ae 1d4b5 53",
  "1d4b6 1d4b9 61;1d4bd 1d4c3 68;1d4c5 1d4cf 70;1d4d0 1d4e9 41;1d4ea 1d503 61;1d504 1d505 41",
  "1d507 1d50a 44;1d50d 1d514 4a;1d516 1d51c 53;1d51e 1d537 61;1d538 1d539 41;1d53b 1d53e 44",
  "1d540 1d544 49;1d54a 1d550 53;1d552 1d56b 61;1d56c 1d585 41;1d586 1d59f 61;1d5a0 1d5b9 41",
  "1d5ba 1d5d3 61;1d5d4 1d5ed 41;1d5ee 1d607 61;1d608 1d621 41;1d622 1d63b 61;1d63c 1d655 41",
  "1d656 1d66f 61;1d670 1d689 41;1d68a 1d6a3 61;1d6a8 1d6b8 391;1d6ba 1d6c0 3a3;1d6c2 1d6da 3b1",
  "1d6e2 1d6f2 391;1d6f4 1d6fa 3a3;1d6fc 1d714 3b1;1d71c 1d72c 391;1d72e 1d734 3a3;1d736 1d74e 3b1",
  "1d756 1d766 391;1d768 1d76e 3a3;1d770 1d788 3b1;1d790 1d7a0 391;1d7a2 1d7a8 3a3;1d7aa 1d7c2 3b1",
  "1d7ca 1d7cb 3dc;1d7ce 1d7d7 30;1d7d8 1d7e1 30;1d7e2 1d7eb 30;1d7ec 1d7f5 30;1d7f6 1d7ff 30",
  "1ee00 1ee01 627;1ee0a 1ee0d 643;1ee15 1ee16 62a;1ee2a 1ee2d 643;1ee35 1ee36 62a;1ee6c 1ee6d 645",
  "1ee75 1ee76 62a;1ee80 1ee81 627;1ee84 1ee85 647;1ee8b 1ee8d 644;1ee95 1ee96 62a;1eeab 1eead 644",
  "1eeb5 1eeb6 62a;1fbf0 1fbf9 30;2f829 2f82a 5305;2f881 2f882 5de1;2f8f5 2f8f6 6bba",
  "2f945 2f946 771e;2f9e8 2f9e9 92d7"]

/-- The first of some characters in a row, and what each of them stands for or is made of, divided
by commas. -/
def letterParts : List String := [
  "aa,61;b5,3bc;ba,6f;c0,41 300,41 301,41 302,41 303,41 308,41 30a;c7,43 327,45 300,45 301,45 302",
  "cb,45 308,49 300,49 301,49 302,49 308;d1,4e 303,4f 300,4f 301,4f 302,4f 303,4f 308;d9,55 300",
  "da,55 301,55 302,55 308,59 301;e0,61 300,61 301,61 302,61 303,61 308,61 30a;e7,63 327,65 300",
  "e9,65 301,65 302,65 308,69 300,69 301,69 302,69 308;f1,6e 303,6f 300,6f 301,6f 302,6f 303,6f 308",
  "f9,75 300,75 301,75 302,75 308,79 301;ff,79 308,41 304,61 304,41 306,61 306,41 328,61 328,43 301",
  "107,63 301,43 302,63 302,43 307,63 307,43 30c,63 30c,44 30c,64 30c;112,45 304,65 304,45 306",
  "115,65 306,45 307,65 307,45 328,65 328,45 30c,65 30c,47 302,67 302,47 306,67 306,47 307,67 307",
  "122,47 327,67 327,48 302,68 302;128,49 303,69 303,49 304,69 304,49 306,69 306,49 328,69 328",
  "130,49 307;132,49 4a,69 6a,4a 302,6a 302,4b 327,6b 327;139,4c 301,6c 301,4c 327,6c 327,4c 30c",
  "13e,6c 30c,4c b7,6c b7;143,4e 301,6e 301,4e 327,6e 327,4e 30c,6e 30c,2bc 6e;14c,4f 304,6f 304",
  "14e,4f 306,6f 306,4f 30b,6f 30b;154,52 301,72 301,52 327,72 327,52 30c,72 30c,53 301,73 301",
  "15c,53 302,73 302,53 327,73 327,53 30c,73 30c,54 327,74 327,54 30c,74 30c;168,55 303,75 303",
  "16a,55 304,75 304,55 306,75 306,55 30a,75 30a,55 30b,75 30b,55 328,75 328,57 302,77 302,59 302",
  "177,79 302,59 308,5a 301,7a 301,5a 307,7a 307,5a 30c,7a 30c,73;1a0,4f 31b,6f 31b;1af,55 31b",
  "1b0,75 31b;1c4,44 5a 30c,44 7a 30c,64 7a 30c,4c 4a,4c 6a,6c 6a,4e 4a,4e 6a,6e 6a,41 30c,61 30c",
  "1cf,49 30c,69 30c,4f 30c,6f 30c,55 30c,75 30c,55 308 304,75 308 304,55 308 301,75 308 301",
  "1d9,55 308 30c,75 308 30c,55 308 300,75 308 300;1de,41 308 304,61 308 304,41 307 304,61 307 304",
  "1e2,c6 304,e6 304;1e6,47 30c,67 30c,4b 30c,6b 30c,4f 328,6f 328,4f 328 304,6f 328 304,1b7 30c",
  "1ef,292 30c,6a 30c,44 5a,44 7a,64 7a,47 301,67 301;1f8,4e 300,6e 300,41 30a 301,61 30a 301,c6 301",
  "1fd,e6 301,d8 301,f8 301,41 30f,61 30f,41 311,61 311,45 30f,65 30f,45 311,65 311,49 30f,69 30f",
  "20a,49 311,69 311,4f 30f,6f 30f,4f 311,6f 311,52 30f,72 30f,52 311,72 311,55 30f,75 30f,55 311",
  "217,75 311,53 326,73 326,54 326,74 326;21e,48 30c,68 30c;226,41 307,61 307,45 327,65 327",
  "22a,4f 308 304,6f 308 304,4f 303 304,6f 303 304,4f 307,6f 307,4f 307 304,6f 307 304,59 304,79 304",
  "2b0,68,266,6a,72,279,27b,281,77,79;2e0,263,6c,73,78,295;343,313,308 301;374,2b9;386,391 301,b7",
  "388,395 301,397 301,399 301;38c,39f 301;38e,3a5 301,3a9 301,3b9 308 301;3aa,399 308,3a5 308",
  "3ac,3b1 301,3b5 301,3b7 301,3b9 301,3c5 308 301;3ca,3b9 308,3c5 308,3bf 301,3c5 301,3c9 301",
  "3d0,3b2,3b8,3a5,3a5 301,3a5 308,3c6,3c0;3f0,3ba;3f4,398,3b5;3f9,3a3;400,415 300,415 308",
  "403,413 301;407,406 308;40c,41a 301,418 300,423 306;419,418 306;439,438 306;450,435 300,435 308",
  "453,433 301;457,456 308;45c,43a 301,438 300,443 306;476,474 30f,475 30f;4c1,416 306,436 306",
  "4d0,410 306,430 306,410 308,430 308;4d6,415 306,435 306;4da,4d8 308,4d9 308,416 308,436 308",
  "4de,417 308,437 308;4e2,418 304,438 304,418 308,438 308,41e 308,43e 308;4ea,4e8 308,4e9 308",
  "4ec,42d 308,44d 308,423 304,443 304,423 308,443 308,423 30b,443 30b,427 308,447 308;4f8,42b 308",
  "4f9,44b 308;587,565 582;622,627 653,627 654,648 654,627 655,64a 654;675,627 674,648 674,6c7 674",
  "678,64a 674;6c0,6d5 654;6c2,6c1 654;6d3,6d2 654;929,928 93c;931,930 93c;934,933 93c;958,915 93c",
  "959,916 93c,917 93c,91c 93c,921 93c,922 93c,92b 93c,92f 93c;9cb,9c7 9be,9c7 9d7;9dc,9a1 9bc",
  "9dd,9a2 9bc;9df,9af 9bc;a33,a32 a3c;a36,a38 a3c;a59,a16 a3c,a17 a3c,a1c a3c;a5e,a2b a3c",
  "b48,b47 b56;b4b,b47 b3e,b47 b57;b5c,b21 b3c,b22 b3c;b94,b92 bd7;bca,bc6 bbe,bc7 bbe,bc6 bd7",
  "c48,c46 c56;cc0,cbf cd5;cc7,cc6 cd5,cc6 cd6;cca,cc6 cc2,cc6 cc2 cd5;d4a,d46 d3e,d47 d3e,d46 d57",
  "dda,dd9 dca;ddc,dd9 dcf,dd9 dcf dca,dd9 ddf;e33,e4d e32;eb3,ecd eb2;edc,eab e99,eab ea1",
  "f43,f42 fb7;f4d,f4c fb7;f52,f51 fb7;f57,f56 fb7;f5c,f5b fb7;f69,f40 fb5;f73,f71 f72;f75,f71 f74",
  "f76,fb2 f80,fb2 f71 f80,fb3 f80,fb3 f71 f80;f81,f71 f80;f93,f92 fb7;f9d,f9c fb7;fa2,fa1 fb7",
  "fa7,fa6 fb7;fac,fab fb7;fb9,f90 fb5;1026,1025 102e;10fc,10dc;1b06,1b05 1b35;1b08,1b07 1b35",
  "1b0a,1b09 1b35;1b0c,1b0b 1b35;1b0e,1b0d 1b35;1b12,1b11 1b35;1b3b,1b3a 1b35;1b3d,1b3c 1b35",
  "1b40,1b3e 1b35,1b3f 1b35;1b43,1b42 1b35;1d2c,41,c6,42;1d32,18e;1d3c,4f,222,50,52;1d42,57,61",
  "1d46,1d02,62;1d4a,259;1d4d,67;1d4f,6b,6d,14b,6f,254;1d56,70;1d59,1d1d,26f,76,1d25;1d62,69,72",
  "1d68,3c1;1d78,43d;1d9b,252,63,255,f0,25c,66,25f,261,265;1da7,1d7b,29d,26d,1d85,29f,271,270",
  "1db2,278;1db5,1ab;1db8,1d1c;1dbb,7a;1dbf,3b8;1e00,41 325,61 325,42 307,62 307,42 323,62 323",
  "1e06,42 331,62 331,43 327 301,63 327 301,44 307,64 307,44 323,64 323,44 331,64 331,44 327,64 327",
  "1e12,44 32d,64 32d,45 304 300,65 304 300,45 304 301,65 304 301,45 32d,65 32d,45 330,65 330",
  "1e1c,45 327 306,65 327 306,46 307,66 307,47 304,67 304,48 307,68 307,48 323,68 323,48 308,68 308",
  "1e28,48 327,68 327,48 32e,68 32e,49 330,69 330,49 308 301,69 308 301,4b 301,6b 301,4b 323,6b 323",
  "1e34,4b 331,6b 331,4c 323,6c 323,4c 323 304,6c 323 304,4c 331,6c 331,4c 32d,6c 32d,4d 301,6d 301",
  "1e40,4d 307,6d 307,4d 323,6d 323,4e 307,6e 307,4e 323,6e 323,4e 331,6e 331,4e 32d,6e 32d",
  "1e4c,4f 303 301,6f 303 301,4f 303 308,6f 303 308,4f 304 300,6f 304 300,4f 304 301,6f 304 301",
  "1e54,50 301,70 301,50 307,70 307,52 307,72 307,52 323,72 323,52 323 304,72 323 304,52 331,72 331",
  "1e60,53 307,73 307,53 323,73 323,53 301 307,73 301 307,53 30c 307,73 30c 307,53 323 307",
  "1e69,73 323 307,54 307,74 307,54 323,74 323,54 331,74 331,54 32d,74 32d,55 324,75 324,55 330",
  "1e75,75 330,55 32d,75 32d,55 303 301,75 303 301,55 304 308,75 304 308,56 303,76 303,56 323,76 323",
  "1e80,57 300,77 300,57 301,77 301,57 308,77 308,57 307,77 307,57 323,77 323,58 307,78 307,58 308",
  "1e8d,78 308,59 307,79 307,5a 302,7a 302,5a 323,7a 323,5a 331,7a 331,68 331,74 308,77 30a,79 30a",
  "1e9a,61 2be,73 307;1ea0,41 323,61 323,41 309,61 309,41 302 301,61 302 301,41 302 300,61 302 300",
  "1ea8,41 302 309,61 302 309,41 302 303,61 302 303,41 323 302,61 323 302,41 306 301,61 306 301",
  "1eb0,41 306 300,61 306 300,41 306 309,61 306 309,41 306 303,61 306 303,41 323 306,61 323 306",
  "1eb8,45 323,65 323,45 309,65 309,45 303,65 303,45 302 301,65 302 301,45 302 300,65 302 300",
  "1ec2,45 302 309,65 302 309,45 302 303,65 302 303,45 323 302,65 323 302,49 309,69 309,49 323",
  "1ecb,69 323,4f 323,6f 323,4f 309,6f 309,4f 302 301,6f 302 301,4f 302 300,6f 302 300,4f 302 309",
  "1ed5,6f 302 309,4f 302 303,6f 302 303,4f 323 302,6f 323 302,4f 31b 301,6f 31b 301,4f 31b 300",
  "1edd,6f 31b 300,4f 31b 309,6f 31b 309,4f 31b 303,6f 31b 303,4f 31b 323,6f 31b 323,55 323,75 323",
  "1ee6,55 309,75 309,55 31b 301,75 31b 301,55 31b 300,75 31b 300,55 31b 309,75 31b 309,55 31b 303",
  "1eef,75 31b 303,55 31b 323,75 31b 323,59 300,79 300,59 323,79 323,59 309,79 309,59 303,79 303",
  "1f00,3b1 313,3b1 314,3b1 313 300,3b1 314 300,3b1 313 301,3b1 314 301,3b1 313 342,3b1 314 342",
  "1f08,391 313,391 314,391 313 300,391 314 300,391 313 301,391 314 301,391 313 342,391 314 342",
  "1f10,3b5 313,3b5 314,3b5 313 300,3b5 314 300,3b5 313 301,3b5 314 301;1f18,395 313,395 314",
  "1f1a,395 313 300,395 314 300,395 313 301,395 314 301;1f20,3b7 313,3b7 314,3b7 313 300,3b7 314 300",
  "1f24,3b7 313 301,3b7 314 301,3b7 313 342,3b7 314 342,397 313,397 314,397 313 300,397 314 300",
  "1f2c,397 313 301,397 314 301,397 313 342,397 314 342,3b9 313,3b9 314,3b9 313 300,3b9 314 300",
  "1f34,3b9 313 301,3b9 314 301,3b9 313 342,3b9 314 342,399 313,399 314,399 313 300,399 314 300",
  "1f3c,399 313 301,399 314 301,399 313 342,399 314 342,3bf 313,3bf 314,3bf 313 300,3bf 314 300",
  "1f44,3bf 313 301,3bf 314 301;1f48,39f 313,39f 314,39f 313 300,39f 314 300,39f 313 301,39f 314 301",
  "1f50,3c5 313,3c5 314,3c5 313 300,3c5 314 300,3c5 313 301,3c5 314 301,3c5 313 342,3c5 314 342",
  "1f59,3a5 314;1f5b,3a5 314 300;1f5d,3a5 314 301;1f5f,3a5 314 342,3c9 313,3c9 314,3c9 313 300",
  "1f63,3c9 314 300,3c9 313 301,3c9 314 301,3c9 313 342,3c9 314 342,3a9 313,3a9 314,3a9 313 300",
  "1f6b,3a9 314 300,3a9 313 301,3a9 314 301,3a9 313 342,3a9 314 342,3b1 300,3b1 301,3b5 300,3b5 301",
  "1f74,3b7 300,3b7 301,3b9 300,3b9 301,3bf 300,3bf 301,3c5 300,3c5 301,3c9 300,3c9 301",
  "1f80,3b1 313 345,3b1 314 345,3b1 313 300 345,3b1 314 300 345,3b1 313 301 345,3b1 314 301 345",
  "1f86,3b1 313 342 345,3b1 314 342 345,391 313 345,391 314 345,391 313 300 345,391 314 300 345",
  "1f8c,391 313 301 345,391 314 301 345,391 313 342 345,391 314 342 345,3b7 313 345,3b7 314 345",
  "1f92,3b7 313 300 345,3b7 314 300 345,3b7 313 301 345,3b7 314 301 345,3b7 313 342 345",
  "1f97,3b7 314 342 345,397 313 345,397 314 345,397 313 300 345,397 314 300 345,397 313 301 345",
  "1f9d,397 314 301 345,397 313 342 345,397 314 342 345,3c9 313 345,3c9 314 345,3c9 313 300 345",
  "1fa3,3c9 314 300 345,3c9 313 301 345,3c9 314 301 345,3c9 313 342 345,3c9 314 342 345,3a9 313 345",
  "1fa9,3a9 314 345,3a9 313 300 345,3a9 314 300 345,3a9 313 301 345,3a9 314 301 345,3a9 313 342 345",
  "1faf,3a9 314 342 345,3b1 306,3b1 304,3b1 300 345,3b1 345,3b1 301 345;1fb6,3b1 342,3b1 342 345",
  "1fb8,391 306,391 304,391 300,391 301,391 345;1fbe,3b9;1fc2,3b7 300 345,3b7 345,3b7 301 345",
  "1fc6,3b7 342,3b7 342 345,395 300,395 301,397 300,397 301,397 345;1fd0,3b9 306,3b9 304,3b9 308 300",
  "1fd3,3b9 308 301;1fd6,3b9 342,3b9 308 342,399 306,399 304,399 300,399 301;1fe0,3c5 306,3c5 304",
  "1fe2,3c5 308 300,3c5 308 301,3c1 313,3c1 314,3c5 342,3c5 308 342,3a5 306,3a5 304,3a5 300,3a5 301",
  "1fec,3a1 314;1ff2,3c9 300 345,3c9 345,3c9 301 345;1ff6,3c9 342,3c9 342 345,39f 300,39f 301",
  "1ffa,3a9 300,3a9 301,3a9 345;2071,69;207f,6e;2090,61,65,6f,78,259,68;209a,70;2102,43;2107,190",
  "210a,67,48,48,48,68,127,49,49,4c,6c;2115,4e;211c,52,52;2124,5a;2126,3a9;2128,5a;212a,4b,41 30a",
  "212f,65;2133,4d,6f;2139,69;213c,3c0,3b3,393,3a0;2145,44;2160,49,49 49,49 49 49,49 56,56,56 49",
  "2166,56 49 49,56 49 49 49,49 58,58,58 49,58 49 49,4c;216f,4d,69,69 69,69 69 69,69 76,76,76 69",
  "2176,76 69 69,76 69 69 69,69 78,78,78 69,78 69 69,6c;217f,6d;2c7c,6a,56;2d6f,2d61;3038,5341",
  "304c,304b 3099;304e,304d 3099;3050,304f 3099;3052,3051 3099;3054,3053 3099;3056,3055 3099",
  "3058,3057 3099;305a,3059 3099;305c,305b 3099;305e,305d 3099;3060,305f 3099;3062,3061 3099",
  "3065,3064 3099;3067,3066 3099;3069,3068 3099;3070,306f 3099,306f 309a;3073,3072 3099,3072 309a",
  "3076,3075 3099,3075 309a;3079,3078 3099,3078 309a;307c,307b 3099,307b 309a;3094,3046 3099",
  "309e,309d 3099,3088 308a;30ac,30ab 3099;30ae,30ad 3099;30b0,30af 3099;30b2,30b1 3099",
  "30b4,30b3 3099;30b6,30b5 3099;30b8,30b7 3099;30ba,30b9 3099;30bc,30bb 3099;30be,30bd 3099",
  "30c0,30bf 3099;30c2,30c1 3099;30c5,30c4 3099;30c7,30c6 3099;30c9,30c8 3099;30d0,30cf 3099",
  "30d1,30cf 309a;30d3,30d2 3099,30d2 309a;30d6,30d5 3099,30d5 309a;30d9,30d8 3099,30d8 309a",
  "30dc,30db 3099,30db 309a;30f4,30a6 3099;30f7,30ef 3099,30f0 3099,30f1 3099,30f2 3099",
  "30fe,30fd 3099,30b3 30c8;3133,11aa,1102;3140,111a;3144,1121;3164,1160;3169,11cc,11ce,11d3,11d7",
  "316d,11d9,111c,11dd,11df;3173,1120;3176,1127,1129;317d,1132,1136,1140,1147,114c;3189,1188",
  "318c,1194,119e,11a1;a69c,44a,44c;a770,a76f;a7f2,43,46,51;a7f8,126,153;ab5c,a727,ab37,26b,ab52",
  "ab69,28d;f900,8c48,66f4,8eca,8cc8,6ed1,4e32,53e5,9f9c,9f9c,5951,91d1,5587,5948,61f6,7669,7f85",
  "f910,863f,87ba,88f8,908f,6a02,6d1b,70d9,73de,843d,916a,99f1,4e82,5375,6b04,721b,862d,9e1e,5d50",
  "f922,6feb,85cd,8964,62c9,81d8,881f,5eca,6717,6d6a,72fc,90ce,4f86,51b7,52de,64c4,6ad3,7210,76e7",
  "f934,8001,8606,865c,8def,9732,9b6f,9dfa,788c,797f,7da0,83c9,9304,9e7f,8ad6,58df,5f04,7c60,807e",
  "f946,7262,78ca,8cc2,96f7,58d8,5c62,6a13,6dda,6f0f,7d2f,7e37,964b,52d2,808b,51dc,51cc,7a1c,7dbe",
  "f958,83f1,9675,8b80,62cf,6a02,8afe,4e39,5be7,6012,7387,7570,5317,78fb,4fbf,5fa9,4e0d,6ccc,6578",
  "f96a,7d22,53c3,585e,7701,8449,8aaa,6bba,8fb0,6c88,62fe,82e5,63a0,7565,4eae,5169,51c9,6881,7ce7",
  "f97c,826f,8ad2,91cf,52f5,5442,5973,5eec,65c5,6ffe,792a,95ad,9a6a,9e97,9ece,529b,66c6,6b77,8f62",
  "f98e,5e74,6190,6200,649a,6f23,7149,7489,79ca,7df4,806f,8f26,84ee,9023,934a,5217,52a3,54bd,70c8",
  "f9a0,88c2,8aaa,5ec9,5ff5,637b,6bae,7c3e,7375,4ee4,56f9,5be7,5dba,601c,73b2,7469,7f9a,8046,9234",
  "f9b2,96f6,9748,9818,4f8b,79ae,91b4,96b8,60e1,4e86,50da,5bee,5c3f,6599,6a02,71ce,7642,84fc,907c",
  "f9c4,9f8d,6688,962e,5289,677b,67f3,6d41,6e9c,7409,7559,786b,7d10,985e,516d,622e,9678,502b,5d19",
  "f9d6,6dea,8f2a,5f8b,6144,6817,7387,9686,5229,540f,5c65,6613,674e,68a8,6ce5,7406,75e2,7f79,88cf",
  "f9e8,88e1,91cc,96e2,533f,6eba,541d,71d0,7498,85fa,96a3,9c57,9e9f,6797,6dcb,81e8,7acb,7b20,7c92",
  "f9fa,72c0,7099,8b58,4ec0,8336,523a,5207,5ea6,62d3,7cd6,5b85,6d1e,66b4,8f3b,884c,964d,898b,5ed3",
  "fa0c,5140,55c0;fa10,585a;fa12,6674;fa15,51de,732a,76ca,793c,795e,7965,798f,9756,7cbe,7fbd",
  "fa20,8612;fa22,8af8;fa25,9038,90fd;fa2a,98ef,98fc,9928,9db4,90de,96b7,4fae,50e7,514d,52c9,52e4",
  "fa35,5351,559d,5606,5668,5840,58a8,5c64,5c6e,6094,6168,618e,61f2,654f,65e2,6691,6885,6d77,6e1a",
  "fa47,6f22,716e,722b,7422,7891,793e,7949,7948,7950,7956,795d;fa54,7a40,7a81,7bc0,7df4,7e09,7e41",
  "fa5a,7f72,8005,81ed,8279,8279,8457,8910,8996,8b01,8b39,8cd3,8d08,8fb6,9038,96e3,97ff,983b,6075",
  "fa6c,242ee,8218;fa70,4e26,51b5,5168,4f80,5145,5180,52c7,52fa,559d,5555,5599,55e2,585a,58b3,5944",
  "fa7f,5954,5a62,5b28,5ed2,5ed9,5f69,5fad,60d8,614e,6108,618e,6160,61f2,6234,63c4,641c,6452,6556",
  "fa91,6674,6717,671b,6756,6b79,6bba,6d41,6edb,6ecb,6f22,701e,716e,77a7,7235,72af,732a,7471,7506",
  "faa3,753b,761d,761f,76ca,76db,76f4,774a,7740,78cc,7ab1,7bc0,7c7b,7d5b,7df4,7f3e,8005,8352,83ef",
  "fab5,8779,8941,8986,8996,8abf,8af8,8acb,8b01,8afe,8aed,8b39,8b8a,8d08,8f38,9072,9199,9276,967c",
  "fac7,96e3,9756,97db,97ff,980b,983b,9b12,9f9c,2284a,22844,233d5,3b9d,4018,4039,25249,25cd0,27ed3",
  "fad8,9f43,9f8e;fb00,66 66,66 69,66 6c,66 66 69,66 66 6c,73 74,73 74;fb13,574 576,574 565,574 56b",
  "fb16,57e 576,574 56d;fb1d,5d9 5b4;fb1f,5f2 5b7,5e2,5d0;fb27,5e8,5ea;fb2a,5e9 5c1,5e9 5c2",
  "fb2c,5e9 5bc 5c1,5e9 5bc 5c2,5d0 5b7,5d0 5b8,5d0 5bc,5d1 5bc,5d2 5bc,5d3 5bc,5d4 5bc,5d5 5bc",
  "fb36,5d6 5bc;fb38,5d8 5bc,5d9 5bc,5da 5bc,5db 5bc,5dc 5bc;fb3e,5de 5bc;fb40,5e0 5bc,5e1 5bc",
  "fb43,5e3 5bc,5e4 5bc;fb46,5e6 5bc,5e7 5bc,5e8 5bc,5e9 5bc,5ea 5bc,5d5 5b9,5d1 5bf,5db 5bf,5e4 5bf",
  "fb4f,5d0 5dc,671,671,67b,67b,67b,67b,67e,67e,67e,67e,680,680,680,680,67a,67a,67a,67a,67f,67f,67f",
  "fb65,67f,679,679,679,679,6a4,6a4,6a4,6a4,6a6,6a6,6a6,6a6,684,684,684,684,683,683,683,683,686,686",
  "fb7c,686;fb7f,687,687,687,68d,68d,68c,68c,68e,68e,688,688,698,698,691,691,6a9,6a9,6a9,6a9,6af,6af",
  "fb94,6af,6af,6b3,6b3,6b3,6b3,6b1,6b1,6b1,6b1,6ba;fba1,6bb,6bb,6bb,6d5 654,6d5 654,6c1,6c1,6c1,6c1",
  "fbaa,6be,6be,6be,6be,6d2,6d2,6d2 654,6d2 654;fbd3,6ad,6ad,6ad,6ad,6c7,6c7,6c6,6c6,6c8,6c8,6c7 674",
  "fbde,6cb,6cb,6c5,6c5,6c9,6c9,6d0,6d0,6d0,6d0,649,649,64a 654 627,64a 654 627,64a 654 6d5",
  "fbed,64a 654 6d5,64a 654 648,64a 654 648,64a 654 6c7,64a 654 6c7,64a 654 6c6,64a 654 6c6",
  "fbf4,64a 654 6c8,64a 654 6c8,64a 654 6d0,64a 654 6d0,64a 654 6d0,64a 654 649,64a 654 649",
  "fbfb,64a 654 649,6cc,6cc,6cc,6cc,64a 654 62c,64a 654 62d,64a 654 645,64a 654 649,64a 654 64a",
  "fc05,628 62c,628 62d,628 62e,628 645,628 649,628 64a,62a 62c,62a 62d,62a 62e,62a 645,62a 649",
  "fc10,62a 64a,62b 62c,62b 645,62b 649,62b 64a,62c 62d,62c 645,62d 62c,62d 645,62e 62c,62e 62d",
  "fc1b,62e 645,633 62c,633 62d,633 62e,633 645,635 62d,635 645,636 62c,636 62d,636 62e,636 645",
  "fc26,637 62d,637 645,638 645,639 62c,639 645,63a 62c,63a 645,641 62c,641 62d,641 62e,641 645",
  "fc31,641 649,641 64a,642 62d,642 645,642 649,642 64a,643 627,643 62c,643 62d,643 62e,643 644",
  "fc3c,643 645,643 649,643 64a,644 62c,644 62d,644 62e,644 645,644 649,644 64a,645 62c,645 62d",
  "fc47,645 62e,645 645,645 649,645 64a,646 62c,646 62d,646 62e,646 645,646 649,646 64a,647 62c",
  "fc52,647 645,647 649,647 64a,64a 62c,64a 62d,64a 62e,64a 645,64a 649,64a 64a,630 670,631 670",
  "fc5d,649 670;fc64,64a 654 631,64a 654 632,64a 654 645,64a 654 646,64a 654 649,64a 654 64a,628 631",
  "fc6b,628 632,628 645,628 646,628 649,628 64a,62a 631,62a 632,62a 645,62a 646,62a 649,62a 64a",
  "fc76,62b 631,62b 632,62b 645,62b 646,62b 649,62b 64a,641 649,641 64a,642 649,642 64a,643 627",
  "fc81,643 644,643 645,643 649,643 64a,644 645,644 649,644 64a,645 627,645 645,646 631,646 632",
  "fc8c,646 645,646 646,646 649,646 64a,649 670,64a 631,64a 632,64a 645,64a 646,64a 649,64a 64a",
  "fc97,64a 654 62c,64a 654 62d,64a 654 62e,64a 654 645,64a 654 647,628 62c,628 62d,628 62e,628 645",
  "fca0,628 647,62a 62c,62a 62d,62a 62e,62a 645,62a 647,62b 645,62c 62d,62c 645,62d 62c,62d 645",
  "fcab,62e 62c,62e 645,633 62c,633 62d,633 62e,633 645,635 62d,635 62e,635 645,636 62c,636 62d",
  "fcb6,636 62e,636 645,637 62d,638 645,639 62c,639 645,63a 62c,63a 645,641 62c,641 62d,641 62e",
  "fcc1,641 645,642 62d,642 645,643 62c,643 62d,643 62e,643 644,643 645,644 62c,644 62d,644 62e",
  "fccc,644 645,644 647,645 62c,645 62d,645 62e,645 645,646 62c,646 62d,646 62e,646 645,646 647",
  "fcd7,647 62c,647 645,647 670,64a 62c,64a 62d,64a 62e,64a 645,64a 647,64a 654 645,64a 654 647",
  "fce1,628 645,628 647,62a 645,62a 647,62b 645,62b 647,633 645,633 647,634 645,634 647,643 644",
  "fcec,643 645,644 645,646 645,646 647,64a 645,64a 647,640 64e 651,640 64f 651,640 650 651,637 649",
  "fcf6,637 64a,639 649,639 64a,63a 649,63a 64a,633 649,633 64a,634 649,634 64a,62d 649,62d 64a",
  "fd01,62c 649,62c 64a,62e 649,62e 64a,635 649,635 64a,636 649,636 64a,634 62c,634 62d,634 62e",
  "fd0c,634 645,634 631,633 631,635 631,636 631,637 649,637 64a,639 649,639 64a,63a 649,63a 64a",
  "fd17,633 649,633 64a,634 649,634 64a,62d 649,62d 64a,62c 649,62c 64a,62e 649,62e 64a,635 649",
  "fd22,635 64a,636 649,636 64a,634 62c,634 62d,634 62e,634 645,634 631,633 631,635 631,636 631",
  "fd2d,634 62c,634 62d,634 62e,634 645,633 647,634 647,637 645,633 62c,633 62d,633 62e,634 62c",
  "fd38,634 62d,634 62e,637 645,638 645,627 64b,627 64b;fd50,62a 62c 645,62a 62d 62c,62a 62d 62c",
  "fd53,62a 62d 645,62a 62e 645,62a 645 62c,62a 645 62d,62a 645 62e,62c 645 62d,62c 645 62d",
  "fd5a,62d 645 64a,62d 645 649,633 62d 62c,633 62c 62d,633 62c 649,633 645 62d,633 645 62d",
  "fd61,633 645 62c,633 645 645,633 645 645,635 62d 62d,635 62d 62d,635 645 645,634 62d 645",
  "fd68,634 62d 645,634 62c 64a,634 645 62e,634 645 62e,634 645 645,634 645 645,636 62d 649",
  "fd6f,636 62e 645,636 62e 645,637 645 62d,637 645 62d,637 645 645,637 645 64a,639 62c 645",
  "fd76,639 645 645,639 645 645,639 645 649,63a 645 645,63a 645 64a,63a 645 649,641 62e 645",
  "fd7d,641 62e 645,642 645 62d,642 645 645,644 62d 645,644 62d 64a,644 62d 649,644 62c 62c",
  "fd84,644 62c 62c,644 62e 645,644 62e 645,644 645 62d,644 645 62d,645 62d 62c,645 62d 645",
  "fd8b,645 62d 64a,645 62c 62d,645 62c 645,645 62e 62c,645 62e 645;fd92,645 62c 62e,647 645 62c",
  "fd94,647 645 645,646 62d 645,646 62d 649,646 62c 645,646 62c 645,646 62c 649,646 645 64a",
  "fd9b,646 645 649,64a 645 645,64a 645 645,628 62e 64a,62a 62c 64a,62a 62c 649,62a 62e 64a",
  "fda2,62a 62e 649,62a 645 64a,62a 645 649,62c 645 64a,62c 62d 649,62c 645 649,633 62e 649",
  "fda9,635 62d 64a,634 62d 64a,636 62d 64a,644 62c 64a,644 645 64a,64a 62d 64a,64a 62c 64a",
  "fdb0,64a 645 64a,645 645 64a,642 645 64a,646 62d 64a,642 645 62d,644 62d 645,639 645 64a",
  "fdb7,643 645 64a,646 62c 62d,645 62e 64a,644 62c 645,643 645 645,644 62c 645,646 62c 62d",
  "fdbe,62c 62d 64a,62d 62c 64a,645 62c 64a,641 645 64a,628 62d 64a,643 645 645,639 62c 645",
  "fdc5,635 645 645,633 62e 64a,646 62c 64a;fdf0,635 644 6d2,642 644 6d2,627 644 644 647",
  "fdf3,627 643 628 631,645 62d 645 62f,635 644 639 645,631 633 648 644,639 644 64a 647",
  "fdf8,648 633 644 645,635 644 649;fe33,5f,5f;fe4d,5f,5f,5f;fe71,640 64b;fe77,640 64e;fe79,640 64f",
  "fe7b,640 650;fe7d,640 651;fe7f,640 652,621,627 653,627 653,627 654,627 654,648 654,648 654",
  "fe87,627 655,627 655,64a 654,64a 654,64a 654,64a 654,627;fe90,628,628;fe96,62a,62a;fe9a,62b,62b",
  "fe9e,62c,62c;fea2,62d,62d;fea6,62e,62e;feb2,633,633;feb6,634,634;feba,635,635;febe,636,636",
  "fec2,637,637;fec6,638,638;feca,639,639;fece,63a,63a,63a,641,641,641;fed6,642,642;feda,643,643",
  "fede,644,644;fee2,645,645;fee6,646,646;feea,647,647;fef2,64a,64a,64a,644 627 653,644 627 653",
  "fef7,644 627 654,644 627 654,644 627 655,644 627 655,644 627,644 627;ff3f,5f;ff66,30f2,30a1,30a3",
  "ff69,30a5,30a7,30a9,30e3,30e5,30e7,30c3,30fc,30a2,30a4,30a6,30a8;ff77,30ad,30af,30b1,30b3,30b5",
  "ff7c,30b7,30b9,30bb,30bd,30bf,30c1,30c4,30c6,30c8;ff8b,30d2,30d5,30d8,30db;ff94,30e4,30e6",
  "ff9c,30ef,30f3;ffa0,1160;ffa3,11aa,1102;ffb0,111a;ffb4,1121;10783,e6,299,253;10787,2a3,ab66,2a5",
  "1078a,2a4;1078d,1d91,258,25e,2a9,264,262,260,29b,127,29c,267,284;1079b,26c,1df04,a78e,26e,1df05",
  "107a0,28e,1df06,f8;107a5,71,27a,1df08;107aa,280,2a8,2a6,ab67,2a7,288,2c71;107b2,28f;107b5,298",
  "107b9,1df0a,1df1e;1109a,11099 110ba;1109c,1109b 110ba;110ab,110a5 110ba;1112e,11131 11127",
  "1112f,11132 11127;1134b,11347 1133e,11347 11357;114bb,114b9 114ba,114b9 114b0;114be,114b9 114bd",
  "115ba,115b8 115af,115b9 115af;11938,11935 11930;1d49c,41;1d4a2,47;1d4bb,66;1d546,4f;1d6a4,131,237",
  "1d6b9,398;1d6dc,3b5,3b8,3ba,3c6,3c1,3c0;1d6f3,398;1d716,3b5,3b8,3ba,3c6,3c1,3c0;1d72d,398",
  "1d750,3b5,3b8,3ba,3c6,3c1,3c0;1d767,398;1d78a,3b5,3b8,3ba,3c6,3c1,3c0;1d7a1,398;1d7c4,3b5,3b8,3ba",
  "1d7c7,3c6,3c1,3c0;1ee02,62c,62f;1ee05,648,632,62d,637,64a;1ee0e,633,639,641,635,642,631,634",
  "1ee17,62e,630,636,638,63a,66e,6ba,6a1,66f;1ee21,628,62c;1ee24,647;1ee27,62d;1ee29,64a;1ee2e,633",
  "1ee2f,639,641,635,642;1ee34,634;1ee37,62e;1ee39,636;1ee3b,63a;1ee42,62c;1ee47,62d;1ee49,64a",
  "1ee4b,644;1ee4d,646,633,639;1ee51,635,642;1ee54,634;1ee57,62e;1ee59,636;1ee5b,63a;1ee5d,6ba",
  "1ee5f,66f;1ee61,628,62c;1ee64,647;1ee67,62d,637,64a,643;1ee6e,633,639,641,635,642;1ee74,634",
  "1ee77,62e;1ee79,636,638,63a,66e;1ee7e,6a1;1ee82,62c,62f;1ee86,632,62d,637,64a;1ee8e,633,639,641",
  "1ee91,635,642,631,634;1ee97,62e,630,636,638,63a;1eea1,628,62c,62f;1eea5,648,632,62d,637,64a",
  "1eeae,633,639,641,635,642,631,634;1eeb7,62e,630,636,638,63a;2f800,4e3d,4e38,4e41,20122,4f60,4fae",
  "2f806,4fbb,5002,507a,5099,50e7,50cf,349e,2063a,514d,5154,5164,5177,2051c,34b9,5167,518d,2054b",
  "2f817,5197,51a4,4ecc,51ac,51b5,291df,51f5,5203,34df,523b,5246,5272,5277,3515,52c7,52c9,52e4,52fa",
  "2f82b,5317,5349,5351,535a,5373,537d,537f,537f,537f,20a2c,7070,53ca,53df,20b63,53eb,53f1,5406,549e",
  "2f83d,5438,5448,5468,54a2,54f6,5510,5553,5563,5584,5584,5599,55ab,55b3,55c2,5716,5606,5717,5651",
  "2f84f,5674,5207,58ee,57ce,57f4,580d,578b,5832,5831,58ac,214e4,58f2,58f7,5906,591a,5922,5962,216a8",
  "2f861,216ea,59ec,5a1b,5a27,59d8,5a66,36ee,36fc,5b08,5b3e,5b3e,219c8,5bc3,5bd8,5be7,5bf3,21b18",
  "2f872,5bff,5c06,5f53,5c22,3781,5c60,5c6e,5cc0,5c8d,21de4,5d43,21de6,5d6e,5d6b,5d7c;2f883,382f",
  "2f884,5dfd,5e28,5e3d,5e69,3862,22183,387c,5eb0,5eb3,5eb6,5eca,2a392,5efe,22331,22331,8201,5f22",
  "2f895,5f22,38c7,232b8,261da,5f62,5f6b,38e3,5f9a,5fcd,5fd7,5ff9,6081,393a,391c,6094,226d4,60c7",
  "2f8a6,6148,614c,614e,614c,617a,618e,61b2,61a4,61af,61de,61f2,61f6,6210,621b,625d,62b1,62d4,6350",
  "2f8b8,22b0c,633d,62fc,6368,6383,63e4,22bf1,6422,63c5,63a9,3a2e,6469,647e,649d,6477,3a6c,654f,656c",
  "2f8ca,2300a,65e3,66f8,6649,3b19,6691,3b08,3ae4,5192,5195,6700,669c,80ad,43d9,6717,671b,6721,675e",
  "2f8dc,6753,233c3,3b49,67fa,6785,6852,6885,2346d,688e,681f,6914,3b9d,6942,69a3,69ea,6aa8,236a3",
  "2f8ed,6adb,3c18,6b21,238a7,6b54,3c4e,6b72,6b9f;2f8f7,23a8d,21d0b,23afa,6c4e,23cbc,6cbf,6ccd,6c67",
  "2f8ff,6d16,6d3e,6d77,6d41,6d69,6d78,6d85,23d1e,6d34,6e2f,6e6e,3d33,6ecb,6ec7,23ed1,6df9,6f6e",
  "2f910,23f5e,23f8e,6fc6,7039,701e,701b,3d96,704a,707d,7077,70ad,20525,7145,24263,719c,243ab,7228",
  "2f921,7235,7250,24608,7280,7295,24735,24814,737a,738b,3eac,73a5,3eb8,3eb8,7447,745c,7471,7485",
  "2f932,74ca,3f1b,7524,24c36,753e,24c92,7570,2219f,7610,24fa1,24fb8,25044,3ffc,4008,76f4,250f3",
  "2f942,250f2,25119,25133;2f947,771f,774a,4039,778b,4046,4096,2541d,784e,788c,78cc,40e3,25626,7956",
  "2f954,2569a,256c5,798f,79eb,412f,7a40,7a4a,7a4f,2597c,25aa7,25aa7,7aee,4202,25bab,7bc6,7bc9,4227",
  "2f965,25c80,7cd2,42a0,7ce8,7ce3,7d00,25f86,7d63,4301,7dc7,7e02,7e45,4334,26228,26247,4359,262d9",
  "2f976,7f7a,2633e,7f95,7ffa,8005,264da,26523,8060,265a8,8070,2335f,43d5,80b2,8103,440b,813e,5ab5",
  "2f987,267a7,267b5,23393,2339c,8201,8204,8f9e,446b,8291,828b,829d,52b3,82b1,82b3,82bd,82e6,26b3c",
  "2f998,82e5,831d,8363,83ad,8323,83bd,83e7,8457,8353,83ca,83cc,83dc,26c36,26d6b,26cd5,452b,84f1",
  "2f9a9,84f3,8516,273ca,8564,26f2c,455d,4561,26fb1,270d2,456b,8650,865c,8667,8669,86a9,8688,870e",
  "2f9ba,86e2,8779,8728,876b,8786,45d7,87e1,8801,45f9,8860,8863,27667,88d7,88de,4635,88fa,34bb,278ae",
  "2f9cc,27966,46be,46c7,8aa0,8aed,8b8a,8c55,27ca8,8cab,8cc1,8d1b,8d77,27f2f,20804,8dcb,8dbc,8df0",
  "2f9dd,208de,8ed4,8f38,285d2,285ed,9094,90f1,9111,2872e,911b,9238;2f9ea,927c,93f9,9415,28bfa,958b",
  "2f9ef,4995,95b7,28d77,49e6,96c3,5db2,9723,29145,2921a,4a6e,4a76,97e0,2940a,4ab2,29496,980b,980b",
  "2fa00,9829,295b6,98e2,4b33,9929,99a7,99c2,99fe,4bce,29b30,9b12,9c40,9cfd,4cce,4ced,9d67,2a0ce",
  "2fa11,4cf8,2a105,2a20e,2a291,9ebb,4d56,9ef9,9efe,9f05,9f0f,9f16,9f3b,2a600"]

/-- First and last of a run of marks, and their class. -/
def markClasses : List String := [
  "300 314 e6;315 315 e8;316 319 dc;31a 31a e8;31b 31b d8;31c 320 dc;321 322 ca;323 326 dc",
  "327 328 ca;329 333 dc;334 338 1;339 33c dc;33d 344 e6;345 345 f0;346 346 e6;347 349 dc;34a 34c e6",
  "34d 34e dc;350 352 e6;353 356 dc;357 357 e6;358 358 e8;359 35a dc;35b 35b e6;35c 35c e9",
  "35d 35e ea;35f 35f e9;360 361 ea;362 362 e9;363 36f e6;483 487 e6;591 591 dc;592 595 e6",
  "596 596 dc;597 599 e6;59a 59a de;59b 59b dc;59c 5a1 e6;5a2 5a7 dc;5a8 5a9 e6;5aa 5aa dc",
  "5ab 5ac e6;5ad 5ad de;5ae 5ae e4;5af 5af e6;5b0 5b0 a;5b1 5b1 b;5b2 5b2 c;5b3 5b3 d;5b4 5b4 e",
  "5b5 5b5 f;5b6 5b6 10;5b7 5b7 11;5b8 5b8 12;5b9 5ba 13;5bb 5bb 14;5bc 5bc 15;5bd 5bd 16;5bf 5bf 17",
  "5c1 5c1 18;5c2 5c2 19;5c4 5c4 e6;5c5 5c5 dc;5c7 5c7 12;610 617 e6;618 618 1e;619 619 1f",
  "61a 61a 20;64b 64b 1b;64c 64c 1c;64d 64d 1d;64e 64e 1e;64f 64f 1f;650 650 20;651 651 21",
  "652 652 22;653 654 e6;655 656 dc;657 65b e6;65c 65c dc;65d 65e e6;65f 65f dc;670 670 23",
  "6d6 6dc e6;6df 6e2 e6;6e3 6e3 dc;6e4 6e4 e6;6e7 6e8 e6;6ea 6ea dc;6eb 6ec e6;6ed 6ed dc",
  "711 711 24;730 730 e6;731 731 dc;732 733 e6;734 734 dc;735 736 e6;737 739 dc;73a 73a e6",
  "73b 73c dc;73d 73d e6;73e 73e dc;73f 741 e6;742 742 dc;743 743 e6;744 744 dc;745 745 e6",
  "746 746 dc;747 747 e6;748 748 dc;749 74a e6;7eb 7f1 e6;7f2 7f2 dc;7f3 7f3 e6;7fd 7fd dc",
  "816 819 e6;81b 823 e6;825 827 e6;829 82d e6;859 85b dc;898 898 e6;899 89b dc;89c 89f e6",
  "8ca 8ce e6;8cf 8d3 dc;8d4 8e1 e6;8e3 8e3 dc;8e4 8e5 e6;8e6 8e6 dc;8e7 8e8 e6;8e9 8e9 dc",
  "8ea 8ec e6;8ed 8ef dc;8f0 8f0 1b;8f1 8f1 1c;8f2 8f2 1d;8f3 8f5 e6;8f6 8f6 dc;8f7 8f8 e6",
  "8f9 8fa dc;8fb 8ff e6;93c 93c 7;94d 94d 9;951 951 e6;952 952 dc;953 954 e6;9bc 9bc 7;9cd 9cd 9",
  "9fe 9fe e6;a3c a3c 7;a4d a4d 9;abc abc 7;acd acd 9;b3c b3c 7;b4d b4d 9;bcd bcd 9;c3c c3c 7",
  "c4d c4d 9;c55 c55 54;c56 c56 5b;cbc cbc 7;ccd ccd 9;d3b d3c 9;d4d d4d 9;dca dca 9;e38 e39 67",
  "e3a e3a 9;e48 e4b 6b;eb8 eb9 76;eba eba 9;ec8 ecb 7a;f18 f19 dc;f35 f35 dc;f37 f37 dc;f39 f39 d8",
  "f71 f71 81;f72 f72 82;f74 f74 84;f7a f7d 82;f80 f80 82;f82 f83 e6;f84 f84 9;f86 f87 e6;fc6 fc6 dc",
  "1037 1037 7;1039 103a 9;108d 108d dc;135d 135f e6;1714 1715 9;1734 1734 9;17d2 17d2 9",
  "17dd 17dd e6;18a9 18a9 e4;1939 1939 de;193a 193a e6;193b 193b dc;1a17 1a17 e6;1a18 1a18 dc",
  "1a60 1a60 9;1a75 1a7c e6;1a7f 1a7f dc;1ab0 1ab4 e6;1ab5 1aba dc;1abb 1abc e6;1abd 1abd dc",
  "1abf 1ac0 dc;1ac1 1ac2 e6;1ac3 1ac4 dc;1ac5 1ac9 e6;1aca 1aca dc;1acb 1ace e6;1b34 1b34 7",
  "1b44 1b44 9;1b6b 1b6b e6;1b6c 1b6c dc;1b6d 1b73 e6;1baa 1bab 9;1be6 1be6 7;1bf2 1bf3 9",
  "1c37 1c37 7;1cd0 1cd2 e6;1cd4 1cd4 1;1cd5 1cd9 dc;1cda 1cdb e6;1cdc 1cdf dc;1ce0 1ce0 e6",
  "1ce2 1ce8 1;1ced 1ced dc;1cf4 1cf4 e6;1cf8 1cf9 e6;1dc0 1dc1 e6;1dc2 1dc2 dc;1dc3 1dc9 e6",
  "1dca 1dca dc;1dcb 1dcc e6;1dcd 1dcd ea;1dce 1dce d6;1dcf 1dcf dc;1dd0 1dd0 ca;1dd1 1df5 e6",
  "1df6 1df6 e8;1df7 1df8 e4;1df9 1df9 dc;1dfa 1dfa da;1dfb 1dfb e6;1dfc 1dfc e9;1dfd 1dfd dc",
  "1dfe 1dfe e6;1dff 1dff dc;20d0 20d1 e6;20d2 20d3 1;20d4 20d7 e6;20d8 20da 1;20db 20dc e6",
  "20e1 20e1 e6;20e5 20e6 1;20e7 20e7 e6;20e8 20e8 dc;20e9 20e9 e6;20ea 20eb 1;20ec 20ef dc",
  "20f0 20f0 e6;2cef 2cf1 e6;2d7f 2d7f 9;2de0 2dff e6;302a 302a da;302b 302b e4;302c 302c e8",
  "302d 302d de;302e 302f e0;3099 309a 8;a66f a66f e6;a674 a67d e6;a69e a69f e6;a6f0 a6f1 e6",
  "a806 a806 9;a82c a82c 9;a8c4 a8c4 9;a8e0 a8f1 e6;a92b a92d dc;a953 a953 9;a9b3 a9b3 7;a9c0 a9c0 9",
  "aab0 aab0 e6;aab2 aab3 e6;aab4 aab4 dc;aab7 aab8 e6;aabe aabf e6;aac1 aac1 e6;aaf6 aaf6 9",
  "abed abed 9;fb1e fb1e 1a;fe20 fe26 e6;fe27 fe2d dc;fe2e fe2f e6;101fd 101fd dc;102e0 102e0 dc",
  "10376 1037a e6;10a0d 10a0d dc;10a0f 10a0f e6;10a38 10a38 e6;10a39 10a39 1;10a3a 10a3a dc",
  "10a3f 10a3f 9;10ae5 10ae5 e6;10ae6 10ae6 dc;10d24 10d27 e6;10eab 10eac e6;10f46 10f47 dc",
  "10f48 10f4a e6;10f4b 10f4b dc;10f4c 10f4c e6;10f4d 10f50 dc;10f82 10f82 e6;10f83 10f83 dc",
  "10f84 10f84 e6;10f85 10f85 dc;11046 11046 9;11070 11070 9;1107f 1107f 9;110b9 110b9 9",
  "110ba 110ba 7;11100 11102 e6;11133 11134 9;11173 11173 7;111c0 111c0 9;111ca 111ca 7",
  "11235 11235 9;11236 11236 7;112e9 112e9 7;112ea 112ea 9;1133b 1133c 7;1134d 1134d 9",
  "11366 1136c e6;11370 11374 e6;11442 11442 9;11446 11446 7;1145e 1145e e6;114c2 114c2 9",
  "114c3 114c3 7;115bf 115bf 9;115c0 115c0 7;1163f 1163f 9;116b6 116b6 9;116b7 116b7 7;1172b 1172b 9",
  "11839 11839 9;1183a 1183a 7;1193d 1193e 9;11943 11943 7;119e0 119e0 9;11a34 11a34 9;11a47 11a47 9",
  "11a99 11a99 9;11c3f 11c3f 9;11d42 11d42 7;11d44 11d45 9;11d97 11d97 9;16af0 16af4 1",
  "16b30 16b36 e6;16ff0 16ff1 6;1bc9e 1bc9e 1;1d165 1d166 d8;1d167 1d169 1;1d16d 1d16d e2",
  "1d16e 1d172 d8;1d17b 1d182 dc;1d185 1d189 e6;1d18a 1d18b dc;1d1aa 1d1ad e6;1d242 1d244 e6",
  "1e000 1e006 e6;1e008 1e018 e6;1e01b 1e021 e6;1e023 1e024 e6;1e026 1e02a e6;1e130 1e136 e6",
  "1e2ae 1e2ae e6;1e2ec 1e2ef e6;1e8d0 1e8d6 dc;1e944 1e949 e6;1e94a 1e94a 7"]

/-- A mark, and letters with the letters that they make with it. -/
def markedLetters : List String := [
  "300 41 c0 45 c8 49 cc 4e 1f8 4f d2 55 d9 57 1e80 59 1ef2 61 e0 65 e8 69 ec 6e 1f9 6f f2 75 f9",
  "300 77 1e81 79 1ef3 c2 1ea6 ca 1ec0 d4 1ed2 dc 1db e2 1ea7 ea 1ec1 f4 1ed3 fc 1dc 102 1eb0",
  "300 103 1eb1 112 1e14 113 1e15 14c 1e50 14d 1e51 1a0 1edc 1a1 1edd 1af 1eea 1b0 1eeb 391 1fba",
  "300 395 1fc8 397 1fca 399 1fda 39f 1ff8 3a5 1fea 3a9 1ffa 3b1 1f70 3b5 1f72 3b7 1f74 3b9 1f76",
  "300 3bf 1f78 3c5 1f7a 3c9 1f7c 3ca 1fd2 3cb 1fe2 415 400 418 40d 435 450 438 45d 1f00 1f02",
  "300 1f01 1f03 1f08 1f0a 1f09 1f0b 1f10 1f12 1f11 1f13 1f18 1f1a 1f19 1f1b 1f20 1f22 1f21 1f23",
  "300 1f28 1f2a 1f29 1f2b 1f30 1f32 1f31 1f33 1f38 1f3a 1f39 1f3b 1f40 1f42 1f41 1f43 1f48 1f4a",
  "300 1f49 1f4b 1f50 1f52 1f51 1f53 1f59 1f5b 1f60 1f62 1f61 1f63 1f68 1f6a 1f69 1f6b;301 41 c1",
  "301 43 106 45 c9 47 1f4 49 cd 4b 1e30 4c 139 4d 1e3e 4e 143 4f d3 50 1e54 52 154 53 15a 55 da",
  "301 57 1e82 59 dd 5a 179 61 e1 63 107 65 e9 67 1f5 69 ed 6b 1e31 6c 13a 6d 1e3f 6e 144 6f f3",
  "301 70 1e55 72 155 73 15b 75 fa 77 1e83 79 fd 7a 17a c2 1ea4 c5 1fa c6 1fc c7 1e08 ca 1ebe",
  "301 cf 1e2e d4 1ed0 d5 1e4c d8 1fe dc 1d7 e2 1ea5 e5 1fb e6 1fd e7 1e09 ea 1ebf ef 1e2f f4 1ed1",
  "301 f5 1e4d f8 1ff fc 1d8 102 1eae 103 1eaf 112 1e16 113 1e17 14c 1e52 14d 1e53 168 1e78 169 1e79",
  "301 1a0 1eda 1a1 1edb 1af 1ee8 1b0 1ee9 391 386 395 388 397 389 399 38a 39f 38c 3a5 38e 3a9 38f",
  "301 3b1 3ac 3b5 3ad 3b7 3ae 3b9 3af 3bf 3cc 3c5 3cd 3c9 3ce 3ca 390 3cb 3b0 3d2 3d3 413 403",
  "301 41a 40c 433 453 43a 45c 1f00 1f04 1f01 1f05 1f08 1f0c 1f09 1f0d 1f10 1f14 1f11 1f15 1f18 1f1c",
  "301 1f19 1f1d 1f20 1f24 1f21 1f25 1f28 1f2c 1f29 1f2d 1f30 1f34 1f31 1f35 1f38 1f3c 1f39 1f3d",
  "301 1f40 1f44 1f41 1f45 1f48 1f4c 1f49 1f4d 1f50 1f54 1f51 1f55 1f59 1f5d 1f60 1f64 1f61 1f65",
  "301 1f68 1f6c 1f69 1f6d;302 41 c2 43 108 45 ca 47 11c 48 124 49 ce 4a 134 4f d4 53 15c 55 db",
  "302 57 174 59 176 5a 1e90 61 e2 63 109 65 ea 67 11d 68 125 69 ee 6a 135 6f f4 73 15d 75 fb 77 175",
  "302 79 177 7a 1e91 1ea0 1eac 1ea1 1ead 1eb8 1ec6 1eb9 1ec7 1ecc 1ed8 1ecd 1ed9;303 41 c3 45 1ebc",
  "303 49 128 4e d1 4f d5 55 168 56 1e7c 59 1ef8 61 e3 65 1ebd 69 129 6e f1 6f f5 75 169 76 1e7d",
  "303 79 1ef9 c2 1eaa ca 1ec4 d4 1ed6 e2 1eab ea 1ec5 f4 1ed7 102 1eb4 103 1eb5 1a0 1ee0 1a1 1ee1",
  "303 1af 1eee 1b0 1eef;304 41 100 45 112 47 1e20 49 12a 4f 14c 55 16a 59 232 61 101 65 113 67 1e21",
  "304 69 12b 6f 14d 75 16b 79 233 c4 1de c6 1e2 d5 22c d6 22a dc 1d5 e4 1df e6 1e3 f5 22d f6 22b",
  "304 fc 1d6 1ea 1ec 1eb 1ed 226 1e0 227 1e1 22e 230 22f 231 391 1fb9 399 1fd9 3a5 1fe9 3b1 1fb1",
  "304 3b9 1fd1 3c5 1fe1 418 4e2 423 4ee 438 4e3 443 4ef 1e36 1e38 1e37 1e39 1e5a 1e5c 1e5b 1e5d",
  "306 41 102 45 114 47 11e 49 12c 4f 14e 55 16c 61 103 65 115 67 11f 69 12d 6f 14f 75 16d 228 1e1c",
  "306 229 1e1d 391 1fb8 399 1fd8 3a5 1fe8 3b1 1fb0 3b9 1fd0 3c5 1fe0 410 4d0 415 4d6 416 4c1",
  "306 418 419 423 40e 430 4d1 435 4d7 436 4c2 438 439 443 45e 1ea0 1eb6 1ea1 1eb7;307 41 226",
  "307 42 1e02 43 10a 44 1e0a 45 116 46 1e1e 47 120 48 1e22 49 130 4d 1e40 4e 1e44 4f 22e 50 1e56",
  "307 52 1e58 53 1e60 54 1e6a 57 1e86 58 1e8a 59 1e8e 5a 17b 61 227 62 1e03 63 10b 64 1e0b 65 117",
  "307 66 1e1f 67 121 68 1e23 6d 1e41 6e 1e45 6f 22f 70 1e57 72 1e59 73 1e61 74 1e6b 77 1e87 78 1e8b",
  "307 79 1e8f 7a 17c 15a 1e64 15b 1e65 160 1e66 161 1e67 17f 1e9b 1e62 1e68 1e63 1e69;308 41 c4",
  "308 45 cb 48 1e26 49 cf 4f d6 55 dc 57 1e84 58 1e8c 59 178 61 e4 65 eb 68 1e27 69 ef 6f f6",
  "308 74 1e97 75 fc 77 1e85 78 1e8d 79 ff d5 1e4e f5 1e4f 16a 1e7a 16b 1e7b 399 3aa 3a5 3ab 3b9 3ca",
  "308 3c5 3cb 3d2 3d4 406 407 410 4d2 415 401 416 4dc 417 4de 418 4e4 41e 4e6 423 4f0 427 4f4",
  "308 42b 4f8 42d 4ec 430 4d3 435 451 436 4dd 437 4df 438 4e5 43e 4e7 443 4f1 447 4f5 44b 4f9",
  "308 44d 4ed 456 457 4d8 4da 4d9 4db 4e8 4ea 4e9 4eb;309 41 1ea2 45 1eba 49 1ec8 4f 1ece 55 1ee6",
  "309 59 1ef6 61 1ea3 65 1ebb 69 1ec9 6f 1ecf 75 1ee7 79 1ef7 c2 1ea8 ca 1ec2 d4 1ed4 e2 1ea9",
  "309 ea 1ec3 f4 1ed5 102 1eb2 103 1eb3 1a0 1ede 1a1 1edf 1af 1eec 1b0 1eed;30a 41 c5 55 16e 61 e5",
  "30a 75 16f 77 1e98 79 1e99;30c 41 1cd 43 10c 44 10e 45 11a 47 1e6 48 21e 49 1cf 4b 1e8 4c 13d",
  "30c 4e 147 4f 1d1 52 158 53 160 54 164 55 1d3 5a 17d 61 1ce 63 10d 64 10f 65 11b 67 1e7 68 21f",
  "30c 69 1d0 6a 1f0 6b 1e9 6c 13e 6e 148 6f 1d2 72 159 73 161 74 165 75 1d4 7a 17e dc 1d9 fc 1da",
  "30c 1b7 1ee 292 1ef;30f 41 200 45 204 49 208 4f 20c 52 210 55 214 61 201 65 205 69 209 6f 20d",
  "30f 72 211 75 215 474 476 475 477;311 41 202 45 206 49 20a 4f 20e 52 212 55 216 61 203 65 207",
  "311 69 20b 6f 20f 72 213 75 217;323 41 1ea0 42 1e04 44 1e0c 45 1eb8 48 1e24 49 1eca 4b 1e32",
  "323 4c 1e36 4d 1e42 4e 1e46 4f 1ecc 52 1e5a 53 1e62 54 1e6c 55 1ee4 56 1e7e 57 1e88 59 1ef4",
  "323 5a 1e92 61 1ea1 62 1e05 64 1e0d 65 1eb9 68 1e25 69 1ecb 6b 1e33 6c 1e37 6d 1e43 6e 1e47",
  "323 6f 1ecd 72 1e5b 73 1e63 74 1e6d 75 1ee5 76 1e7f 77 1e89 79 1ef5 7a 1e93 1a0 1ee2 1a1 1ee3",
  "323 1af 1ef0 1b0 1ef1;325 41 1e00 61 1e01;328 41 104 45 118 49 12e 4f 1ea 55 172 61 105 65 119",
  "328 69 12f 6f 1eb 75 173;331 42 1e06 44 1e0e 4b 1e34 4c 1e3a 4e 1e48 52 1e5e 54 1e6e 5a 1e94",
  "331 62 1e07 64 1e0f 68 1e96 6b 1e35 6c 1e3b 6e 1e49 72 1e5f 74 1e6f 7a 1e95;327 43 c7 44 1e10",
  "327 45 228 47 122 48 1e28 4b 136 4c 13b 4e 145 52 156 53 15e 54 162 63 e7 64 1e11 65 229 67 123",
  "327 68 1e29 6b 137 6c 13c 6e 146 72 157 73 15f 74 163;32d 44 1e12 45 1e18 4c 1e3c 4e 1e4a 54 1e70",
  "32d 55 1e76 64 1e13 65 1e19 6c 1e3d 6e 1e4b 74 1e71 75 1e77;330 45 1e1a 49 1e2c 55 1e74 65 1e1b",
  "330 69 1e2d 75 1e75;32e 48 1e2a 68 1e2b;30b 4f 150 55 170 6f 151 75 171 423 4f2 443 4f3",
  "31b 4f 1a0 55 1af 6f 1a1 75 1b0;326 53 218 54 21a 73 219 74 21b;324 55 1e72 75 1e73;313 391 1f08",
  "313 395 1f18 397 1f28 399 1f38 39f 1f48 3a9 1f68 3b1 1f00 3b5 1f10 3b7 1f20 3b9 1f30 3bf 1f40",
  "313 3c1 1fe4 3c5 1f50 3c9 1f60;314 391 1f09 395 1f19 397 1f29 399 1f39 39f 1f49 3a1 1fec 3a5 1f59",
  "314 3a9 1f69 3b1 1f01 3b5 1f11 3b7 1f21 3b9 1f31 3bf 1f41 3c1 1fe5 3c5 1f51 3c9 1f61;345 391 1fbc",
  "345 397 1fcc 3a9 1ffc 3ac 1fb4 3ae 1fc4 3b1 1fb3 3b7 1fc3 3c9 1ff3 3ce 1ff4 1f00 1f80 1f01 1f81",
  "345 1f02 1f82 1f03 1f83 1f04 1f84 1f05 1f85 1f06 1f86 1f07 1f87 1f08 1f88 1f09 1f89 1f0a 1f8a",
  "345 1f0b 1f8b 1f0c 1f8c 1f0d 1f8d 1f0e 1f8e 1f0f 1f8f 1f20 1f90 1f21 1f91 1f22 1f92 1f23 1f93",
  "345 1f24 1f94 1f25 1f95 1f26 1f96 1f27 1f97 1f28 1f98 1f29 1f99 1f2a 1f9a 1f2b 1f9b 1f2c 1f9c",
  "345 1f2d 1f9d 1f2e 1f9e 1f2f 1f9f 1f60 1fa0 1f61 1fa1 1f62 1fa2 1f63 1fa3 1f64 1fa4 1f65 1fa5",
  "345 1f66 1fa6 1f67 1fa7 1f68 1fa8 1f69 1fa9 1f6a 1faa 1f6b 1fab 1f6c 1fac 1f6d 1fad 1f6e 1fae",
  "345 1f6f 1faf 1f70 1fb2 1f74 1fc2 1f7c 1ff2 1fb6 1fb7 1fc6 1fc7 1ff6 1ff7;342 3b1 1fb6 3b7 1fc6",
  "342 3b9 1fd6 3c5 1fe6 3c9 1ff6 3ca 1fd7 3cb 1fe7 1f00 1f06 1f01 1f07 1f08 1f0e 1f09 1f0f",
  "342 1f20 1f26 1f21 1f27 1f28 1f2e 1f29 1f2f 1f30 1f36 1f31 1f37 1f38 1f3e 1f39 1f3f 1f50 1f56",
  "342 1f51 1f57 1f59 1f5f 1f60 1f66 1f61 1f67 1f68 1f6e 1f69 1f6f;653 627 622;654 627 623 648 624",
  "654 64a 626 6c1 6c2 6d2 6d3 6d5 6c0;655 627 625;93c 928 929 930 931 933 934;9be 9c7 9cb",
  "9d7 9c7 9cc;b3e b47 b4b;b56 b47 b48;b57 b47 b4c;bd7 b92 b94 bc6 bcc;bbe bc6 bca bc7 bcb",
  "c56 c46 c48;cd5 cbf cc0 cc6 cc7 cca ccb;cc2 cc6 cca;cd6 cc6 cc8;d3e d46 d4a d47 d4b;d57 d46 d4c",
  "dca dd9 dda ddc ddd;dcf dd9 ddc;ddf dd9 dde;102e 1025 1026;1b35 1b05 1b06 1b07 1b08 1b09 1b0a",
  "1b35 1b0b 1b0c 1b0d 1b0e 1b11 1b12 1b3a 1b3b 1b3c 1b3d 1b3e 1b40 1b3f 1b41 1b42 1b43",
  "3099 3046 3094 304b 304c 304d 304e 304f 3050 3051 3052 3053 3054 3055 3056 3057 3058 3059 305a",
  "3099 305b 305c 305d 305e 305f 3060 3061 3062 3064 3065 3066 3067 3068 3069 306f 3070 3072 3073",
  "3099 3075 3076 3078 3079 307b 307c 309d 309e 30a6 30f4 30ab 30ac 30ad 30ae 30af 30b0 30b1 30b2",
  "3099 30b3 30b4 30b5 30b6 30b7 30b8 30b9 30ba 30bb 30bc 30bd 30be 30bf 30c0 30c1 30c2 30c4 30c5",
  "3099 30c6 30c7 30c8 30c9 30cf 30d0 30d2 30d3 30d5 30d6 30d8 30d9 30db 30dc 30ef 30f7 30f0 30f8",
  "3099 30f1 30f9 30f2 30fa 30fd 30fe;309a 306f 3071 3072 3074 3075 3077 3078 307a 307b 307d",
  "309a 30cf 30d1 30d2 30d4 30d5 30d7 30d8 30da 30db 30dd;110ba 11099 1109a 1109b 1109c 110a5 110ab",
  "11127 11131 1112e 11132 1112f;1133e 11347 1134b;11357 11347 1134c;114b0 114b9 114bc",
  "114ba 114b9 114bb;114bd 114b9 114be;115af 115b8 115ba 115b9 115bb;11930 11935 11938"]

end Dalvik.Text
