import Dalvik.Text.Ranges

/-!
Printable characters: those that quoted text shows as themselves. Controls, unassigned and private
code points and all blanks but the space are written as escapes instead.
-/

namespace Dalvik.Text

/-- Printable characters beyond the first 128 code points. -/
def printableRanges : Array (Nat × Nat) := ranges [
  "a1+b ae+2c9 37a+5 384+6 38c 38e+13 3a3+18c 531+25 559+31 58d+2 591+36 5d0+1a 5ef+5 606+15",
  "61d+bf 6de+2f 710+3a 74d+64 7c0+3a 7fd+30 830+e 840+1b 85e 860+a 870+1e 898+49 8e3+a0 985+7",
  "98f+1 993+15 9aa+6 9b2 9b6+3 9bc+8 9c7+1 9cb+3 9d7 9dc+1 9df+4 9e6+18 a01+2 a05+5 a0f+1",
  "a13+15 a2a+6 a32+1 a35+1 a38+1 a3c a3e+4 a47+1 a4b+2 a51 a59+3 a5e a66+10 a81+2 a85+8 a8f+2",
  "a93+15 aaa+6 ab2+1 ab5+4 abc+9 ac7+2 acb+2 ad0 ae0+3 ae6+b af9+6 b01+2 b05+7 b0f+1 b13+15",
  "b2a+6 b32+1 b35+4 b3c+8 b47+1 b4b+2 b55+2 b5c+1 b5f+4 b66+11 b82+1 b85+5 b8e+2 b92+3 b99+1",
  "b9c b9e+1 ba3+1 ba8+2 bae+b bbe+4 bc6+2 bca+3 bd0 bd7 be6+14 c00+c c0e+2 c12+16 c2a+f c3c+8",
  "c46+2 c4a+3 c55+1 c58+2 c5d c60+3 c66+9 c77+15 c8e+2 c92+16 caa+9 cb5+4 cbc+8 cc6+2 cca+3",
  "cd5+1 cdd+1 ce0+3 ce6+9 cf1+1 d00+c d0e+2 d12+32 d46+2 d4a+5 d54+f d66+19 d81+2 d85+11 d9a+17",
  "db3+8 dbd dc0+6 dca dcf+5 dd6 dd8+7 de6+9 df2+2 e01+39 e3f+1c e81+1 e84 e86+4 e8c+17 ea5",
  "ea7+16 ec0+4 ec6 ec8+5 ed0+9 edc+3 f00+47 f49+23 f71+26 f99+23 fbe+e fce+c 1000+c5 10c7 10cd",
  "10d0+178 124a+3 1250+6 1258 125a+3 1260+28 128a+3 1290+20 12b2+3 12b8+6 12c0 12c2+3 12c8+e",
  "12d8+38 1312+3 1318+42 135d+1f 1380+19 13a0+55 13f8+5 1400+27f 1681+1b 16a0+58 1700+15",
  "171f+17 1740+13 1760+c 176e+2 1772+1 1780+5d 17e0+9 17f0+9 1800+d 180f+a 1820+58 1880+2a",
  "18b0+45 1900+1e 1920+b 1930+b 1940 1944+29 1970+4 1980+2b 19b0+19 19d0+a 19de+3d 1a1e+40",
  "1a60+1c 1a7f+a 1a90+9 1aa0+d 1ab0+1e 1b00+4c 1b50+2e 1b80+73 1bfc+3b 1c3b+e 1c4d+3b 1c90+2a",
  "1cbd+a 1cd0+2a 1d00+215 1f18+5 1f20+25 1f48+5 1f50+7 1f59 1f5b 1f5d 1f5f+1e 1f80+34 1fb6+e",
  "1fc6+d 1fd6+5 1fdd+12 1ff2+2 1ff6+8 2010+17 2030+2e 2070+1 2074+1a 2090+c 20a0+20 20d0+20",
  "2100+8b 2190+296 2440+a 2460+713 2b76+1f 2b97+15c 2cf9+2c 2d27 2d2d 2d30+37 2d6f+1 2d7f+17",
  "2da0+6 2da8+6 2db0+6 2db8+6 2dc0+6 2dc8+6 2dd0+6 2dd8+6 2de0+7d 2e80+19 2e9b+58 2f00+d5",
  "2ff0+b 3001+3e 3041+55 3099+66 3105+2a 3131+5d 3190+53 31f0+2e 3220+726c a490+36 a4d0+15b",
  "a640+b7 a700+ca a7d0+1 a7d3 a7d5+4 a7f2+3a a830+9 a840+37 a880+45 a8ce+b a8e0+73 a95f+1d",
  "a980+4d a9cf+a a9de+20 aa00+36 aa40+d aa50+9 aa5c+66 aadb+1b ab01+5 ab09+5 ab11+5 ab20+6",
  "ab28+6 ab30+3b ab70+7d abf0+9 ac00+2ba3 d7b0+16 d7cb+30 f900+16d fa70+69 fb00+6 fb13+4",
  "fb1d+19 fb38+4 fb3e fb40+1 fb43+1 fb46+7c fbd3+1bc fd92+35 fdcf fdf0+29 fe20+32 fe54+12",
  "fe68+3 fe70+4 fe76+86 ff01+bd ffc2+5 ffca+5 ffd2+5 ffda+2 ffe0+6 ffe8+6 fffc+1 10000+b",
  "1000d+19 10028+12 1003c+1 1003f+e 10050+d 10080+7a 10100+2 10107+2c 10137+57 10190+c 101a0",
  "101d0+2d 10280+1c 102a0+30 102e0+1b 10300+23 1032d+1d 10350+2a 10380+1d 1039f+24 103c8+d",
  "10400+9d 104a0+9 104b0+23 104d8+23 10500+27 10530+33 1056f+b 1057c+e 1058c+6 10594+1 10597+a",
  "105a3+e 105b3+6 105bb+1 10600+136 10740+15 10760+7 10780+5 10787+29 107b2+8 10800+5 10808",
  "1080a+2b 10837+1 1083c 1083f+16 10857+47 108a7+8 108e0+12 108f4+1 108fb+20 1091f+1a 1093f",
  "10980+37 109bc+13 109d2+31 10a05+1 10a0c+7 10a15+2 10a19+1c 10a38+2 10a3f+9 10a50+8 10a60+3f",
  "10ac0+26 10aeb+b 10b00+35 10b39+1c 10b58+1a 10b78+19 10b99+3 10ba9+6 10c00+48 10c80+32",
  "10cc0+32 10cfa+2d 10d30+9 10e60+1e 10e80+29 10eab+2 10eb0+1 10f00+27 10f30+29 10f70+19",
  "10fb0+1b 10fe0+16 11000+4d 11052+23 1107f+3d 110be+4 110d0+18 110f0+9 11100+34 11136+11",
  "11150+26 11180+5f 111e1+13 11200+11 11213+2b 11280+6 11288 1128a+3 1128f+e 1129f+a 112b0+3a",
  "112f0+9 11300+3 11305+7 1130f+1 11313+15 1132a+6 11332+1 11335+4 1133b+9 11347+1 1134b+2",
  "11350 11357 1135d+6 11366+6 11370+4 11400+5b 1145d+4 11480+47 114d0+9 11580+35 115b8+25",
  "11600+44 11650+9 11660+c 11680+39 116c0+9 11700+1a 1171d+e 11730+16 11800+3b 118a0+52 118ff+7",
  "11909 1190c+7 11915+1 11918+1d 11937+1 1193b+b 11950+9 119a0+7 119aa+2d 119da+a 11a00+47",
  "11a50+52 11ab0+48 11c00+8 11c0a+2c 11c38+d 11c50+1c 11c70+1f 11c92+15 11ca9+d 11d00+6 11d08+1",
  "11d0b+2b 11d3a 11d3c+1 11d3f+8 11d50+9 11d60+5 11d67+1 11d6a+24 11d90+1 11d93+5 11da0+9",
  "11ee0+18 11fb0 11fc0+31 11fff+39a 12400+6e 12470+4 12480+c3 12f90+62 13000+42e 14400+246",
  "16800+238 16a40+1e 16a60+9 16a6e+50 16ac0+9 16ad0+1d 16af0+5 16b00+45 16b50+9 16b5b+6",
  "16b63+14 16b7d+12 16e40+5a 16f00+4a 16f4f+38 16f8f+10 16fe0+4 16ff0+1 17000+17f7 18800+4d5",
  "18d00+8 1aff0+3 1aff5+6 1affd+1 1b000+122 1b150+2 1b164+3 1b170+18b 1bc00+6a 1bc70+c 1bc80+8",
  "1bc90+9 1bc9c+3 1cf00+2d 1cf30+16 1cf50+73 1d000+f5 1d100+26 1d129+49 1d17b+6f 1d200+45",
  "1d2e0+13 1d300+56 1d360+18 1d400+54 1d456+46 1d49e+1 1d4a2 1d4a5+1 1d4a9+3 1d4ae+b 1d4bb",
  "1d4bd+6 1d4c5+40 1d507+3 1d50d+7 1d516+6 1d51e+1b 1d53b+3 1d540+4 1d546 1d54a+6 1d552+153",
  "1d6a8+123 1d7ce+2bd 1da9b+4 1daa1+e 1df00+1e 1e000+6 1e008+10 1e01b+6 1e023+1 1e026+4",
  "1e100+2c 1e130+d 1e140+9 1e14e+1 1e290+1e 1e2c0+39 1e2ff 1e7e0+6 1e7e8+3 1e7ed+1 1e7f0+e",
  "1e800+c4 1e8c7+f 1e900+4b 1e950+9 1e95e+1 1ec71+43 1ed01+3c 1ee00+3 1ee05+1a 1ee21+1 1ee24",
  "1ee27 1ee29+9 1ee34+3 1ee39 1ee3b 1ee42 1ee47 1ee49 1ee4b 1ee4d+2 1ee51+1 1ee54 1ee57 1ee59",
  "1ee5b 1ee5d 1ee5f 1ee61+1 1ee64 1ee67+3 1ee6c+6 1ee74+3 1ee79+3 1ee7e 1ee80+9 1ee8b+10",
  "1eea1+2 1eea5+4 1eeab+10 1eef0+1 1f000+2b 1f030+63 1f0a0+e 1f0b1+e 1f0c1+e 1f0d1+24 1f100+ad",
  "1f1e6+1c 1f210+2b 1f240+8 1f250+1 1f260+5 1f300+3d7 1f6dd+f 1f6f0+c 1f700+73 1f780+58 1f7e0+b",
  "1f7f0 1f800+b 1f810+37 1f850+9 1f860+27 1f890+1d 1f8b0+1 1f900+153 1fa60+d 1fa70+4 1fa78+4",
  "1fa80+6 1fa90+1c 1fab0+a 1fac0+5 1fad0+9 1fae0+7 1faf0+6 1fb00+92 1fb94+36 1fbf0+9 20000+a6df",
  "2a700+1038 2b740+dd 2b820+1681 2ceb0+1d30 2f800+21d 30000+134a e0100+ef"]

def isPrintable (c : Char) : Bool :=
  if c.toNat < 128 then 32 ≤ c.toNat && c.toNat < 127
  else inRanges printableRanges c.toNat

end Dalvik.Text
