import Dalvik.Text.Word

/-!
Characters of names in expressions.
-/

namespace Dalvik.Text

/-- Letters beyond the first 128 code points that may not begin a name. -/
def barredLetterRanges : Array (Nat × Nat) := #[
  (0x37a, 0x37a), (0xe33, 0xe33), (0xeb3, 0xeb3), (0x2e2f, 0x2e2f), (0xfc5e, 0xfc63),
  (0xfdfa, 0xfdfb), (0xfe70, 0xfe70), (0xfe72, 0xfe72), (0xfe74, 0xfe74), (0xfe76, 0xfe76),
  (0xfe78, 0xfe78), (0xfe7a, 0xfe7a), (0xfe7c, 0xfe7c), (0xfe7e, 0xfe7e), (0xff9e, 0xff9f)]

/-- Characters beyond the first 128 code points that begin a name and are no letters. -/
def letterlikeRanges : Array (Nat × Nat) := #[
  (0x16ee, 0x16f0), (0x1885, 0x1886), (0x2118, 0x2118), (0x212e, 0x212e), (0x2160, 0x2182),
  (0x2185, 0x2188), (0x3007, 0x3007), (0x3021, 0x3029), (0x3038, 0x303a), (0xa6e6, 0xa6ef),
  (0x10140, 0x10174), (0x10341, 0x10341), (0x1034a, 0x1034a), (0x103d1, 0x103d5),
  (0x12400, 0x1246e)]

/-- Characters beyond the first 128 code points that may stand in a name but not begin one. -/
def nameRestRanges : Array (Nat × Nat) := ranges [
  "b7 300+6f 387 483+4 591+2c 5bf 5c1+1 5c4+1 5c7 610+a 64b+1e 670 6d6+6 6df+5 6e7+1 6ea+3 6f0+9",
  "711 730+1a 7a6+a 7c0+9 7eb+8 7fd 816+3 81b+8 825+2 829+4 859+2 898+7 8ca+17 8e3+20 93a+2",
  "93e+11 951+6 962+1 966+9 981+2 9bc 9be+6 9c7+1 9cb+2 9d7 9e2+1 9e6+9 9fe a01+2 a3c a3e+4",
  "a47+1 a4b+2 a51 a66+b a75 a81+2 abc abe+7 ac7+2 acb+2 ae2+1 ae6+9 afa+5 b01+2 b3c b3e+6 b47+1",
  "b4b+2 b55+2 b62+1 b66+9 b82 bbe+4 bc6+2 bca+3 bd7 be6+9 c00+4 c3c c3e+6 c46+2 c4a+3 c55+1",
  "c62+1 c66+9 c81+2 cbc cbe+6 cc6+2 cca+3 cd5+1 ce2+1 ce6+9 d00+3 d3b+1 d3e+6 d46+2 d4a+3 d57",
  "d62+1 d66+9 d81+2 dca dcf+5 dd6 dd8+7 de6+9 df2+1 e31 e33+7 e47+7 e50+9 eb1 eb3+9 ec8+5 ed0+9",
  "f18+1 f20+9 f35 f37 f39 f3e+1 f71+13 f86+1 f8d+a f99+23 fc6 102b+13 1040+9 1056+3 105e+2",
  "1062+2 1067+6 1071+3 1082+b 108f+e 135d+2 1369+8 1712+3 1732+2 1752+1 1772+1 17b4+1f 17dd",
  "17e0+9 180b+2 180f+a 18a9 1920+b 1930+b 1946+9 19d0+a 1a17+4 1a55+9 1a60+1c 1a7f+a 1a90+9",
  "1ab0+d 1abf+f 1b00+4 1b34+10 1b50+9 1b6b+8 1b80+2 1ba1+c 1bb0+9 1be6+d 1c24+13 1c40+9 1c50+9",
  "1cd0+2 1cd4+14 1ced 1cf4 1cf7+2 1dc0+3f 203f+1 2054 20d0+c 20e1 20e5+b 2cef+2 2d7f 2de0+1f",
  "302a+5 3099+1 a620+9 a66f a674+9 a69e+1 a6f0+1 a802 a806 a80b a823+4 a82c a880+1 a8b4+11",
  "a8d0+9 a8e0+11 a8ff+a a926+7 a947+c a980+3 a9b3+d a9d0+9 a9e5 a9f0+9 aa29+d aa43 aa4c+1",
  "aa50+9 aa7b+2 aab0 aab2+2 aab7+1 aabe+1 aac1 aaeb+4 aaf5+1 abe3+7 abec+1 abf0+9 fb1e fe00+f",
  "fe20+f fe33+1 fe4d+2 ff10+9 ff3f ff9e+1 101fd 102e0 10376+4 104a0+9 10a01+2 10a05+1 10a0c+3",
  "10a38+2 10a3f 10ae5+1 10d24+3 10d30+9 10eab+1 10f46+a 10f82+3 11000+2 11038+e 11066+a 11073+1",
  "1107f+3 110b0+a 110c2 110f0+9 11100+2 11127+d 11136+9 11145+1 11173 11180+2 111b3+d 111c9+3",
  "111ce+b 1122c+b 1123e 112df+b 112f0+9 11300+3 1133b+1 1133e+6 11347+1 1134b+2 11357 11362+1",
  "11366+6 11370+4 11435+11 11450+9 1145e 114b0+13 114d0+9 115af+6 115b8+8 115dc+1 11630+10",
  "11650+9 116ab+c 116c0+9 1171d+e 11730+9 1182c+e 118e0+9 11930+5 11937+1 1193b+3 11940 11942+1",
  "11950+9 119d1+6 119da+6 119e4 11a01+9 11a33+6 11a3b+3 11a47 11a51+a 11a8a+f 11c2f+7 11c38+7",
  "11c50+9 11c92+15 11ca9+d 11d31+5 11d3a 11d3c+1 11d3f+6 11d47 11d50+9 11d8a+4 11d90+1 11d93+4",
  "11da0+9 11ef3+3 16a60+9 16ac0+9 16af0+4 16b30+6 16b50+9 16f4f 16f51+36 16f8f+3 16fe4 16ff0+1",
  "1bc9d+1 1cf00+2d 1cf30+16 1d165+4 1d16d+5 1d17b+7 1d185+6 1d1aa+3 1d242+2 1d7ce+31 1da00+36",
  "1da3b+31 1da75 1da84 1da9b+4 1daa1+e 1e000+6 1e008+10 1e01b+6 1e023+1 1e026+4 1e130+6 1e140+9",
  "1e2ae 1e2ec+d 1e8d0+6 1e944+6 1e950+9 1fbf0+9 e0100+ef"]

/-- Whether a character beyond the first 128 code points may begin a name. -/
def beginsName (c : Char) : Bool :=
  if isLetter c then !inRanges barredLetterRanges c.toNat
  else inRanges letterlikeRanges c.toNat

def isNameStart (c : Char) : Bool :=
  if c.toNat < 128 then isAsciiLetter c || c == '_'
  else beginsName c

def isNameRest (c : Char) : Bool :=
  if c.toNat < 128 then isAsciiLetter c || isAsciiDigit c || c == '_'
  else beginsName c || inRanges nameRestRanges c.toNat

end Dalvik.Text
