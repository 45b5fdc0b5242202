/-!
Further names of characters, and names of characters that have no other. The entries are in the form
that `addNames` reads.
-/

namespace Dalvik.Text

def aliasNames : List String := [
  "0:0NUL;0:0NULL;0SOH;1:0START OF HEADING;2TEXT;2:0STX;0END*1 2 1;3:0ETX;0END OF TRANSMISSION",
  "4:0EOT;0ENQ;5:0ENQUIRY;0ACK;6:0ACKNOWLEDGE;0ALERT;7:0BEL;0BACKSPACE;8:0BS;0CHARACTER TABULATION",
  "9:0z*1 1 1;9:0HT;9:0TAB;0END OF lc;a:0EOL;a:0LF;a:0lc FEED;a:0NEW lc;a:0NL;0lc*1 a 1;b:0v*1 b 1",
  "b:0VT;0FF;c:0f FEED;0CARRIAGE RETURN;d:0CR;0LOCKING-SHIFT ONE;e:0SHIFT OUT;e:0SO",
  "0LOCKING-SHIFT ze;f:0SHIFT IN;f:0SI;0DATA LINK ESCAPE;10:0DLE;0DC1;11:0DEVICE CONTROL ONE;0DC2",
  "12:0DEVICE CONTROL TWO;0DC3;13:0DEVICE CONTROL j;0DC4;14:0DEVICE CONTROL fo;0NAK",
  "15:0NEGATIVE*1 27 0;0SYN;16:0SYNCHRONOUS IDLE;0END OF TRANSMISSION bl;17:0ETB;0CAN;18:0CANCEL",
  "0END OF me;19:0EOM;0SUB;1a:0SUBSTITUTE;0ESC;1b:0ESCAPE;0FILE sp;1c:0FS;1c:0INFORMATION sp fo",
  "0GROUP sp;1d:0GS;1d:0INFORMATION sp j;2TWO;1e:0RECORD sp;1e:0RS;0INFORMATION sp ONE;1f:0UNIT sp",
  "1f:0US;0SP;7f:0DEL;7f:0DELETE;0PAD;80:0PADDING CHARACTER;0hg OCTET PRESET;81:0HOP;0BPH",
  "82:0BREAK PERMITTED HERE;0NBH;83:0NO BREAK HERE;0IND;84:0id;0NEL;85:0NEXT lc;0SSA",
  "86:0START OF SELECTED AREA;0END*1 1 1;87:0ESA;0CHARACTER TABULATION SET;88:0z*1 1 1;88:0HTS",
  "0CHARACTER TABULATION w JUSTIFICATION;89:0z*1 1 1;89:0HTJ;0lc*1 6 1;8a:0v*1 7 1;8a:0VTS",
  "0PARTIAL lc dw;8b:2FORWARD;8b:0PLD;0PARTIAL lc BACKWARD;8c:2UP;8c:0PLU;0REVERSE id;8d:1lc FEED",
  "8d:0RI;0si SHIFT TWO;8e:0SINGLE-SHIFT-2;8e:0SS2;0si SHIFT j;8f:0SINGLE-SHIFT-3;8f:0SS3;0DCS",
  "90:0DEVICE CONTROL STRING;0PRIVATE USE ONE;91:1USE-1;91:0PU1;0PRIVATE USE TWO;92:1USE-2;92:0PU2",
  "0SET TRANSMIT STATE;93:0STS;0CANCEL*1 31 1;94:0CCH;0MESSAGE WAITING;95:0MW;0SPA",
  "96:0START OF GUARDED AREA;96:2PROTECTED AREA;0END*1 2 1;97:1*1 2 1;97:0EPA;0SOS",
  "98:0START OF STRING;0SGC;99:0si GRAPHIC CHARACTER INTRODUCER;0SCI;9a:0si*1 2 2",
  "0CONTROL SEQUENCE*1 3 3;9b:0CSI;0ST;9c:0STRING TERMINATOR;0OPERATING SYSTEM COMMAND;9d:0OSC;0PM",
  "9e:0PRIVACY MESSAGE;0APC;9f:0APPLICATION PROGRAM*1 5 2;0NBSP;ad:0SHY;1a2:0lb c l GHA;&;34f:0CGJ",
  "61c:0ALM;709:0SYRIAC SUBLINEAR COLON SKEWED e;cde:0KANNADA l LLLA;e9d:0LAO l FO FON;e9f:3FAY",
  "ea3:2RO;ea5:2LO;fd0:0TIBETAN x BKA- SHOG GI MGO RGYAN;11ec:0HANGUL JONGSEONG YESIEUNG-KIYEOK",
  "2YESIEUNG-SSANGKIYEOK;2SSANGYESIEUNG;2YESIEUNG-KHIEUKH;180b:0FVS1;+2;0MVS;0FVS4;200b:0ZWSP",
  "0ZWNJ;0ZWJ;0LRM;0RLM;202a:0LRE;0RLE;0PDF;0LRO;0RLO;0NNBSP;205f:0MMSP;0WJ;2066:0LRI;0RLI;0FSI",
  "0PDI;2118:0WEIERSTRASS ELLIPTIC FUNCTION;2448:0MICR ON US y;1DASH y;2b7a:0t o a w d v st",
  "2b7c:0g*1 1 1;a015:0YI SYLLABLE ITERATION x;aa6e:0MYANMAR l KHAMTI LLA;fe00:0VS1;+f",
  "fe18:0PRESENTATION f FOR v r u LENTICULAR br;feff:0BOM;feff:0BYTE ORDER x;feff:0ZWNBSP",
  "122d4:0CUNEIFORM s NU11 TENU;3ov NU11 BUR ov BUR;16e56:0MEDEFAIDRIN c l H;3NG;16e76:1m*2 2 2",
  "1b001:0HENTAIGANA l E-1;1d0c5:0BYZANTINE MUSICAL y FTHORA SKLIRON CHROMA VASIS;e0100:0VS17;+ef"]

end Dalvik.Text
