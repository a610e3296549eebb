import CorpusQuery.Pattern.Runs

/-!
# Ages

The version of Unicode that brought each character, up to version 16. Who asks for a version gets
what it has, which is what came with it or before it.
-/

namespace CorpusQuery.Pattern.Age

/-- The versions in order, each with its label in the table. -/
def versions : List (String × String) := [
  ("1.1", "a"), ("2.0", "b"), ("2.1", "c"), ("3.0", "d"), ("3.1", "e"), ("3.2", "f"), ("4.0", "g"),
  ("4.1", "h"), ("5.0", "i"), ("5.1", "j"), ("5.2", "k"), ("6.0", "l"), ("6.1", "m"), ("6.2", "n"),
  ("6.3", "o"), ("7.0", "p"), ("8.0", "q"), ("9.0", "r"), ("10.0", "s"), ("11.0", "t"),
  ("12.0", "u"), ("12.1", "v"), ("13.0", "w"), ("14.0", "x"), ("15.0", "y"), ("15.1", "z"),
  ("16.0", "aa")]

/-- The runs of ages; `zz` is for what no version has, and for the surrogates. -/
def table : List (String × Nat) := Runs.ofLines [
  "a502 d4 a30 d8 f g d18 g3 h11 i14 a89 d5 g2 a47 d a10 d5 g17 a70 d9 f g8 h5 g3 a2 d f13 j4 a2",
  "j2 zz2 a i3 a p zz4 a7 zz a zz a20 zz a44 j a7 d f2 a d a d a d a d a18 e2 f g5 h4 d a12 d a66",
  "d a12 d a41 j d2 f2 d4 a53 f2 a2 f2 a2 f2 i a28 d2 a8 h2 a2 i6 f16 i4 j16 k2 l2 p8 zz a38 zz2",
  "a7 t a39 t a d zz2 p2 m zz b17 h b13 a10 i a9 b h3 zz8 a27 zz4 t a5 zz11 g4 m p j5 h a g9 j5 a",
  "o x h a l a26 j5 a19 d3 g3 h6 l a14 f2 a72 d2 a5 d a15 d a30 g2 a10 d5 g d14 zz d30 g3 d27 zz2",
  "g3 h30 j18 d49 f zz14 i59 zz2 t3 k46 zz2 k15 zz l28 zz2 l zz s11 zz5 x31 zz x2 zz5 aa x8 m p",
  "m11 p6 q2 x r8 w10 x11 t r15 q m27 p k a3 g a53 l2 a18 k l a5 k l2 a25 j2 l5 p k2 i2 h i2 p a3",
  "zz a8 zz2 a2 zz2 a22 zz a7 zz a zz3 a4 zz2 a g a7 zz2 a2 zz2 a3 h zz8 a zz4 a2 zz a5 zz2 a21 k",
  "s2 t zz2 g a g zz a6 zz4 a2 zz2 a22 zz a7 zz a2 zz a2 zz a2 zz2 a zz a5 zz4 a2 zz2 a3 zz3 j",
  "zz7 a4 zz a zz7 a15 j t zz10 a3 zz a7 g a zz a3 zz a22 zz a7 zz a2 zz a5 zz2 a10 zz a3 zz a3",
  "zz2 a zz15 a g3 zz2 a10 m g zz7 q s6 zz a3 zz a8 zz2 a2 zz2 a22 zz a7 zz a2 zz g a4 zz2 a8 j",
  "zz2 a2 zz2 a3 zz7 w a2 zz4 a2 zz a3 j2 zz2 a11 g l6 zz10 a2 zz a6 zz3 a3 zz a4 zz3 a2 zz a zz",
  "a2 zz3 a2 zz3 a3 zz3 a8 h a3 zz4 a5 zz3 a3 zz a4 zz2 j zz6 a zz14 h a12 g8 zz5 p a3 t a8 zz a3",
  "zz a23 zz a10 p a5 zz2 x j a7 zz a3 zz a4 zz7 a2 zz j2 q zz2 x zz2 a2 j2 zz2 a10 zz7 u j8 r p",
  "a2 t a8 zz a3 zz a23 zz a10 zz a5 zz2 g2 a7 zz a3 zz a4 zz7 a2 zz6 x a zz a2 i2 zz2 a10 zz i2",
  "y zz12 s p a2 w a8 zz a3 zz a23 l a16 l s2 j a6 j zz a3 zz a4 l r zz4 r3 a r7 q a2 j2 zz2 a10",
  "j6 r3 j7 zz w d2 zz d18 zz3 d24 zz d9 zz d zz2 d7 zz3 d zz4 d6 zz d zz d8 zz6 p10 zz2 d3 zz12",
  "a58 zz4 a29 zz37 a2 zz a zz u a2 u a zz u a u6 a4 u a7 u a3 zz a zz a u2 a2 u a13 u a3 zz2 a5",
  "zz a zz a6 y zz a10 zz2 a2 m2 zz32 b72 zz b33 d j2 zz4 b27 l4 b6 d b zz b21 d3 b7 d b d3 zz",
  "d15 zz j d h2 j3 k4 l2 zz37 d34 j d5 j d2 j d7 j3 d4 j6 d26 j64 k4 j2 a38 zz m zz5 m zz2 a39",
  "f2 h2 a h m3 a90 k5 a68 k5 a82 k6 d7 h d63 h d zz d4 zz2 d7 zz d zz d4 zz2 d39 h d zz d4 zz2",
  "d31 h d zz d4 zz2 d7 zz d zz d4 zz2 d7 h d7 zz d23 h d31 h d zz d4 zz2 d7 h d39 h d19 zz2 l2",
  "h2 d28 zz3 h26 zz6 d85 q zz2 q6 zz2 k d630 k9 d29 zz3 d81 p8 zz7 f13 x f7 x zz9 x f23 zz9 f20",
  "zz12 f13 zz f3 zz f2 zz12 d93 g zz2 d10 zz6 g10 zz6 d15 x d10 zz6 d88 t zz7 d42 j zz5 k70 zz10",
  "g29 p2 zz g12 zz4 g12 zz4 g zz3 g42 zz2 g5 zz11 h42 k2 zz4 h26 zz6 h10 k zz3 h2 g32 h28 zz2 h2",
  "k63 zz k29 zz2 k11 zz6 k10 zz6 k14 zz2 p15 w2 x14 zz49 i76 x zz aa2 i45 x2 aa j43 m3 j12 m6",
  "l52 zz8 l4 j56 zz3 j15 zz3 j51 r9 aa2 zz5 t43 zz2 t3 m8 zz8 k35 m4 s p2 u zz5 g108 h88 i7 j28",
  "p15 s4 x r l k i2 a155 b j4 a90 j6 a22 zz2 a6 zz2 a38 zz2 a6 zz2 a8 zz a zz a zz a zz a31 zz2",
  "a53 zz a15 zz a14 zz2 a6 zz a19 zz2 a3 zz a9 zz a47 d a23 f d6 f5 g2 h2 f h7 f5 j zz o4 a7 f",
  "zz2 a27 zz h5 l8 zz3 a11 b c d3 f2 h4 k3 l n p3 q s x zz15 a18 d2 f7 h i4 j zz15 a57 d2 g h",
  "f15 h i2 j k3 a48 d i j4 k q2 zz4 a91 d9 f12 a242 f14 a d a121 d f d30 f52 g2 h11 i12 k l11 p7",
  "r4 s a37 d2 aa3 zz22 a11 zz21 a139 f20 g a150 f10 a80 d8 f8 a20 g2 f2 h d a86 d2 f12 h2 f10 g8",
  "h11 j k2 g2 h16 i j10 k3 j4 k10 l k19 l k l4 k24 p a4 l a4 l2 a28 l a35 l a l a4 l3 a k a7 l2",
  "a7 f14 a31 l3 a24 l a14 l h7 i4 m j m l2 f28 j4 f16 d256 f512 g14 h6 i7 j5 i4 j41 p3 j5 k5 p26",
  "zz2 p32 zz w p34 t3 p12 u p8 s t25 q4 t15 u h47 x h47 x i13 j3 k j3 i4 j6 k2 h107 k7 m2 zz5",
  "h45 zz m zz5 m zz2 h54 m2 zz7 h l zz14 l h23 zz9 h7 zz h7 zz h7 zz h7 zz h7 zz h7 zz h7 zz h7",
  "zz j32 h24 j4 h2 j19 k m10 p7 r2 s5 t5 u w3 x11 zz34 d26 zz d89 zz12 d214 zz26 d12 z4 a56 d3",
  "f3 d a zz a84 f2 zz2 a6 f2 a94 f zz5 a40 j s t zz a94 zz a16 d24 l3 w5 h16 j20 aa2 zz9 z f16",
  "a29 g2 zz a36 k12 g f15 a28 g2 h a50 f15 a12 g4 a47 v a119 g4 a99 g2 a31 g d6582 w10 g64",
  "a20902 h22 j8 k8 m q9 s21 t5 w13 x3 d1165 zz3 d18 f2 d16 f d12 f d3 f d zz9 k48 j300 zz20 j32",
  "l2 j18 m8 j28 p6 q m k88 zz8 h23 i4 j5 i2 j107 l2 q l2 m2 p12 l10 m p3 r t p2 q6 t2 u6 x2 u5",
  "w4 aa3 zz2 x2 zz x zz x5 aa3 zz21 x3 w2 p m2 l j5 h44 w zz3 k10 zz6 i56 zz8 j69 r zz8 j12 zz6",
  "k28 q2 t2 j84 zz11 j k29 zz3 k78 zz k11 zz4 k2 p31 zz j55 zz9 j14 zz2 j10 zz2 j4 k28 p4 k67",
  "zz24 k5 m23 zz10 l6 zz2 l6 zz2 l6 zz9 l7 zz l7 zz p48 q4 p2 u2 w4 zz4 q80 k46 zz2 k10 zz6",
  "b11172 zz12 k23 zz4 k49 zz2052 a6702 m2 f59 k3 zz2 h106 zz38 a7 zz12 a5 zz5 d a25 zz a5 zz a",
  "zz a2 zz a2 zz a108 l16 x zz16 a365 x16 a64 zz2 a54 zz7 x e32 a12 f g x2 f16 h10 zz6 a4 j3 p7",
  "q2 a21 f2 g2 a10 zz a19 zz a4 zz4 a3 f a zz a135 zz2 a zz a94 f2 a94 zz3 a6 zz2 a6 zz2 a6 zz2",
  "a3 zz3 a7 zz a7 zz10 d3 c a3 g12 zz g26 zz g19 zz g2 zz g15 zz2 g14 zz34 g123 zz5 g3 zz4 g45",
  "zz3 g9 h75 p2 r2 zz j12 w zz3 p zz47 j46 zz130 j29 zz3 j49 zz15 p28 zz4 e31 p e4 zz9 s3 e27",
  "zz5 p43 zz5 g30 zz g h36 zz4 h14 zz42 e38 g2 e38 g80 zz2 g10 zz6 r36 zz4 r36 zz4 p40 zz8 p52",
  "zz11 p x11 zz x15 zz x7 zz x2 zz x11 zz x15 zz x7 zz x2 zz3 aa52 zz12 p311 zz9 p22 zz10 p8",
  "zz24 x6 zz x42 zz x9 zz69 g6 zz2 g zz g44 zz g2 zz3 g zz2 g k22 zz k9 p63 zz8 p9 zz48 q19 zz",
  "q2 zz5 q5 i26 k2 zz3 i j26 zz5 j zz64 m56 zz4 q2 m2 q16 zz2 q46 h4 zz h2 zz5 h8 zz h3 zz h27",
  "t2 zz2 h3 zz4 h9 t zz7 h9 zz7 k32 p32 zz32 p39 zz4 p12 zz9 k54 zz3 k29 zz2 k27 zz5 k8 p18 zz7",
  "p4 zz12 p7 zz80 k73 zz55 q51 zz13 q51 zz7 q6 t40 zz8 t10 zz6 aa38 zz3 aa29 zz8 aa2 zz208 k31",
  "zz w42 zz w3 zz2 w2 zz16 aa3 zz55 aa y3 t40 zz8 t42 zz22 x26 zz38 w28 zz20 u23 zz9 l78 zz4 l30",
  "x6 zz9 p k66 x zz10 t zz2 m25 zz7 m10 zz6 m53 zz m14 t3 w zz8 p39 zz9 m73 q4 p w2 m10 p q5 zz",
  "p20 zz11 p18 zz p43 r y3 zz62 q7 zz q zz q4 zz q15 zz q11 zz6 p59 zz5 p10 zz6 q p3 zz p8 zz2",
  "p2 zz2 p22 zz p7 zz p2 zz p5 zz t p9 zz2 p2 zz2 p3 zz2 q zz6 p zz5 p7 zz2 p7 zz3 p5 zz11 aa10",
  "zz aa zz2 aa zz aa38 zz aa10 zz aa zz2 aa zz aa4 zz aa10 zz aa2 zz8 aa2 zz29 r90 w r zz r t u",
  "w2 zz30 p72 zz8 p10 zz166 p54 zz2 p18 q20 zz34 p69 zz11 p10 zz6 r13 zz19 m56 u x zz6 m10 zz6",
  "aa20 zz28 q26 t zz2 q15 zz4 q16 x7 zz185 t60 zz100 p83 zz12 p w7 zz2 w zz2 w8 zz w2 zz w30 zz",
  "w2 zz2 w12 zz9 w10 zz70 u8 zz2 u46 zz2 u11 zz27 s72 zz8 s52 u2 s23 t s5 zz13 x16 p57 zz7 y10",
  "zz182 aa34 zz14 aa10 zz6 r9 zz r45 zz r14 zz10 r29 zz3 r32 zz2 r22 zz r14 zz73 s7 zz s2 zz s44",
  "zz3 s zz s2 zz s9 zz8 s10 zz6 t6 zz t2 zz t37 zz t2 zz t6 zz7 t10 zz310 t25 zz7 y17 zz y41 zz3",
  "y28 aa zz85 w zz15 u50 zz13 u i879 p42 q zz102 i99 p12 zz i4 p zz11 q196 zz2636 x99 zz13 k1071",
  "y u9 y29 zz10 aa3995 zz5 q583 zz6841 aa58 zz1734 l569 zz7 p31 zz p10 zz4 p2 x79 zz x10 zz6 p30",
  "zz2 p6 zz10 p70 zz10 p10 zz p7 zz p21 zz5 p19 zz432 aa58 zz198 t91 zz101 m69 u6 zz4 u m47 u9",
  "zz7 m17 zz64 r s u2 w zz11 w2 zz14 r6125 t5 u6 zz8 r755 w483 zz41 aa w9 zz8935 x4 zz x7 zz x2",
  "zz l2 s285 x4 zz15 y zz29 u3 zz2 y zz14 u4 zz8 s396 zz2308 p107 zz5 p13 zz3 p9 zz7 p10 zz2 p8",
  "zz3932 aa250 zz6 aa436 zz76 x46 zz2 x23 zz9 x116 zz60 e246 zz10 e39 zz2 j e180 q11 x2 zz21 h70",
  "zz122 y20 zz12 t20 zz12 g87 zz9 i18 t7 zz135 e85 zz e71 zz e2 zz2 e zz2 e2 zz2 e4 zz e12 zz e",
  "zz e4 g e2 zz e65 zz e4 zz2 e8 zz e7 zz e28 zz e4 zz e5 zz e zz3 e7 zz e338 h2 zz2 e290 i2 zz2",
  "e50 q652 zz15 q5 zz q15 zz1104 x31 zz6 y6 zz213 r7 zz r17 zz2 r7 zz r2 zz r5 zz5 y62 zz33 y",
  "zz112 u45 zz3 u14 zz2 u10 zz4 u2 zz320 x31 zz17 u58 zz5 u zz464 y42 zz214 aa43 zz4 aa zz480 x7",
  "zz x4 zz x2 zz x15 zz p197 zz2 p16 zz41 r75 u zz4 r10 zz4 r2 zz785 t68 zz76 u61 zz194 m4 zz",
  "m27 zz m2 zz m zz2 m zz m10 zz m4 zz m zz m zz6 m zz4 m zz m zz m zz m3 zz m2 zz m zz2 m zz m",
  "zz m zz m zz m zz m2 zz m zz2 m4 zz m7 zz m4 zz m4 zz m zz m10 zz m17 zz5 m3 zz m5 zz m17 zz52",
  "m2 zz270 j44 zz4 j100 zz12 l15 zz2 l14 p zz l15 zz l15 p22 zz10 k11 p2 w3 k31 t l k l11 k l k",
  "l2 k l3 k l3 k5 l8 k l7 k l10 m2 u w3 l9 k l k2 l2 k l10 k4 l2 k l10 r18 w zz56 l26 k l2 zz13",
  "k34 l9 r zz4 k9 zz7 l2 zz14 s6 zz154 l33 p12 q3 l6 p l70 p q2 l20 p12 l37 p l5 p4 q5 p12 l17",
  "p7 q8 l63 p l p l182 p l4 p2 q l62 p2 m4 p7 q5 l24 p18 r p41 r p86 l5 m l16 m l3 m l m l m l m",
  "l3 m l6 m2 l4 m l m2 l4 m l12 p2 q2 l11 p48 l70 p10 q r2 s2 u w2 zz4 y x3 p13 zz3 p4 r3 s2 t u",
  "w2 zz3 l116 y3 zz4 y5 p85 t4 y zz6 u12 zz4 x zz15 p12 zz4 p56 zz8 p10 zz6 p40 zz8 p30 zz2 w2",
  "aa10 zz4 aa2 zz62 s12 w u3 q9 r6 s r8 s8 r s2 r12 u r12 s t3 r15 s13 t5 u w t4 w2 x t u t4 q5",
  "r13 s6 t11 w2 u6 w3 u2 t10 u6 q t2 u8 w x u3 s23 t25 u84 zz12 t14 zz2 u4 w y3 u3 x2 zz3 u3 w4",
  "y2 aa zz5 aa u6 w19 x4 y3 w7 x4 y3 aa y w3 x3 aa zz7 y2 w7 x3 y2 aa zz2 aa x8 y aa zz6 x7 y2",
  "zz7 w147 zz w55 aa37 w10 zz1028 b2 e42711 w7 x2 zz32 k4149 x4 y zz6 l222 zz2 q5762 zz14 s7473",
  "zz15 z622 zz2466 e542 zz1504 b2 w4939 zz5 y4192 zz56398 b2 zz65534 b2 zz65534 b2 zz65534 b2",
  "zz65534 b2 zz65534 b2 zz65534 b2 zz65534 b2 zz65534 b2 zz65534 b2 zz65534 b2 zz e zz30 e96",
  "zz128 g240 zz65038 b131074"]

/-- Whether a name is one of the two of a version, such as `16.0` and `v160`. -/
def isName (version name : String) : Bool :=
  name == version || name.toList == 'v' :: version.toList.filter (· != '.')

/-- The labels of the versions up to the one with this name. -/
def labelsUpTo? (name : String) : List (String × String) → Option (List String)
  | [] => none
  | (version, label) :: vs =>
    if isName version name then some [label] else (labelsUpTo? name vs).map (label :: ·)

/-- The characters that the version with a name has. -/
def ofName? (name : String) : Option Charset :=
  (labelsUpTo? name versions).map fun labels => Runs.members table labels.contains

end CorpusQuery.Pattern.Age
