import Scriptlet.Unicode.CodeSet

/-!
# Ages

The version of the Unicode character database in which every code point was assigned, up to version
16.0.
-/

namespace Scriptlet.Unicode

/-- The versions of the database, the oldest first. A letter stands for each in the table. -/
def versions : List (Char × String) :=
  [('a', "1.1"), ('b', "2.0"), ('c', "2.1"), ('d', "3.0"), ('e', "3.1"), ('f', "3.2"),
   ('g', "4.0"), ('h', "4.1"), ('i', "5.0"), ('j', "5.1"), ('k', "5.2"), ('l', "6.0"),
   ('m', "6.1"), ('n', "6.2"), ('o', "6.3"), ('p', "7.0"), ('q', "8.0"), ('r', "9.0"),
   ('s', "10.0"), ('t', "11.0"), ('u', "12.0"), ('v', "12.1"), ('w', "13.0"), ('x', "14.0"),
   ('y', "15.0"), ('z', "15.1"), ('A', "16.0")]

/-- The runs of code points that were assigned in the same version. What is not assigned is
marked with an underscore. -/
def ageTable : List String :=
  ["a502 d4 a30 d8 f g d18 g3 h11 i14 a89 d5 g2 a47 d a10 d5 g17 a70 d9 f g8 h5 g3 a2 d f13 j4 a2",
   "j2 _2 a i3 a p _4 a7 _ a _ a20 _ a44 j a7 d f2 a d a d a d a d a18 e2 f g5 h4 d a12 d a66 d",
   "a12 d a41 j d2 f2 d4 a53 f2 a2 f2 a2 f2 i a28 d2 a8 h2 a2 i6 f16 i4 j16 k2 l2 p8 _ a38 _2 a7",
   "t a39 t a d _2 p2 m _ b17 h b13 a10 i a9 b h3 _8 a27 _4 t a5 _11 g4 m p j5 h a g9 j5 a o x h",
   "a l a26 j5 a19 d3 g3 h6 l a14 f2 a72 d2 a5 d a15 d a30 g2 a10 d5 g d14 _ d30 g3 d27 _2 g3 h30",
   "j18 d49 f _14 i59 _2 t3 k46 _2 k15 _ l28 _2 l _ s11 _5 x31 _ x2 _5 A x8 m p m11 p6 q2 x r8",
   "w10 x11 t r15 q m27 p k a3 g a53 l2 a18 k l a5 k l2 a25 j2 l5 p k2 i2 h i2 p a3 _ a8 _2 a2 _2",
   "a22 _ a7 _ a _3 a4 _2 a g a7 _2 a2 _2 a3 h _8 a _4 a2 _ a5 _2 a21 k s2 t _2 g a g _ a6 _4 a2",
   "_2 a22 _ a7 _ a2 _ a2 _ a2 _2 a _ a5 _4 a2 _2 a3 _3 j _7 a4 _ a _7 a15 j t _10 a3 _ a7 g a _",
   "a3 _ a22 _ a7 _ a2 _ a5 _2 a10 _ a3 _ a3 _2 a _15 a g3 _2 a10 m g _7 q s6 _ a3 _ a8 _2 a2 _2",
   "a22 _ a7 _ a2 _ g a4 _2 a8 j _2 a2 _2 a3 _7 w a2 _4 a2 _ a3 j2 _2 a11 g l6 _10 a2 _ a6 _3 a3",
   "_ a4 _3 a2 _ a _ a2 _3 a2 _3 a3 _3 a8 h a3 _4 a5 _3 a3 _ a4 _2 j _6 a _14 h a12 g8 _5 p a3 t",
   "a8 _ a3 _ a23 _ a10 p a5 _2 x j a7 _ a3 _ a4 _7 a2 _ j2 q _2 x _2 a2 j2 _2 a10 _7 u j8 r p a2",
   "t a8 _ a3 _ a23 _ a10 _ a5 _2 g2 a7 _ a3 _ a4 _7 a2 _6 x a _ a2 i2 _2 a10 _ i2 y _12 s p a2 w",
   "a8 _ a3 _ a23 l a16 l s2 j a6 j _ a3 _ a4 l r _4 r3 a r7 q a2 j2 _2 a10 j6 r3 j7 _ w d2 _ d18",
   "_3 d24 _ d9 _ d _2 d7 _3 d _4 d6 _ d _ d8 _6 p10 _2 d3 _12 a58 _4 a29 _37 a2 _ a _ u a2 u a _",
   "u a u6 a4 u a7 u a3 _ a _ a u2 a2 u a13 u a3 _2 a5 _ a _ a6 y _ a10 _2 a2 m2 _32 b72 _ b33 d",
   "j2 _4 b27 l4 b6 d b _ b21 d3 b7 d b d3 _ d15 _ j d h2 j3 k4 l2 _37 d34 j d5 j d2 j d7 j3 d4",
   "j6 d26 j64 k4 j2 a38 _ m _5 m _2 a39 f2 h2 a h m3 a90 k5 a68 k5 a82 k6 d7 h d63 h d _ d4 _2",
   "d7 _ d _ d4 _2 d39 h d _ d4 _2 d31 h d _ d4 _2 d7 _ d _ d4 _2 d7 h d7 _ d23 h d31 h d _ d4 _2",
   "d7 h d39 h d19 _2 l2 h2 d28 _3 h26 _6 d85 q _2 q6 _2 k d630 k9 d29 _3 d81 p8 _7 f13 x f7 x _9",
   "x f23 _9 f20 _12 f13 _ f3 _ f2 _12 d93 g _2 d10 _6 g10 _6 d15 x d10 _6 d88 t _7 d42 j _5 k70",
   "_10 g29 p2 _ g12 _4 g12 _4 g _3 g42 _2 g5 _11 h42 k2 _4 h26 _6 h10 k _3 h2 g32 h28 _2 h2 k63",
   "_ k29 _2 k11 _6 k10 _6 k14 _2 p15 w2 x14 _49 i76 x _ A2 i45 x2 A j43 m3 j12 m6 l52 _8 l4 j56",
   "_3 j15 _3 j51 r9 A2 _5 t43 _2 t3 m8 _8 k35 m4 s p2 u _5 g108 h88 i7 j28 p15 s4 x r l k i2",
   "a155 b j4 a90 j6 a22 _2 a6 _2 a38 _2 a6 _2 a8 _ a _ a _ a _ a31 _2 a53 _ a15 _ a14 _2 a6 _",
   "a19 _2 a3 _ a9 _ a47 d a23 f d6 f5 g2 h2 f h7 f5 j _ o4 a7 f _2 a27 _ h5 l8 _3 a11 b c d3 f2",
   "h4 k3 l n p3 q s x _15 a18 d2 f7 h i4 j _15 a57 d2 g h f15 h i2 j k3 a48 d i j4 k q2 _4 a91",
   "d9 f12 a242 f14 a d a121 d f d30 f52 g2 h11 i12 k l11 p7 r4 s a37 d2 A3 _22 a11 _21 a139 f20",
   "g a150 f10 a80 d8 f8 a20 g2 f2 h d a86 d2 f12 h2 f10 g8 h11 j k2 g2 h16 i j10 k3 j4 k10 l k19",
   "l k l4 k24 p a4 l a4 l2 a28 l a35 l a l a4 l3 a k a7 l2 a7 f14 a31 l3 a24 l a14 l h7 i4 m j m",
   "l2 f28 j4 f16 d256 f512 g14 h6 i7 j5 i4 j41 p3 j5 k5 p26 _2 p32 _ w p34 t3 p12 u p8 s t25 q4",
   "t15 u h47 x h47 x i13 j3 k j3 i4 j6 k2 h107 k7 m2 _5 h45 _ m _5 m _2 h54 m2 _7 h l _14 l h23",
   "_9 h7 _ h7 _ h7 _ h7 _ h7 _ h7 _ h7 _ h7 _ j32 h24 j4 h2 j19 k m10 p7 r2 s5 t5 u w3 x11 _34",
   "d26 _ d89 _12 d214 _26 d12 z4 a56 d3 f3 d a _ a84 f2 _2 a6 f2 a94 f _5 a40 j s t _ a94 _ a16",
   "d24 l3 w5 h16 j20 A2 _9 z f16 a29 g2 _ a36 k12 g f15 a28 g2 h a50 f15 a12 g4 a47 v a119 g4",
   "a99 g2 a31 g d6582 w10 g64 a20902 h22 j8 k8 m q9 s21 t5 w13 x3 d1165 _3 d18 f2 d16 f d12 f d3",
   "f d _9 k48 j300 _20 j32 l2 j18 m8 j28 p6 q m k88 _8 h23 i4 j5 i2 j107 l2 q l2 m2 p12 l10 m p3",
   "r t p2 q6 t2 u6 x2 u5 w4 A3 _2 x2 _ x _ x5 A3 _21 x3 w2 p m2 l j5 h44 w _3 k10 _6 i56 _8 j69",
   "r _8 j12 _6 k28 q2 t2 j84 _11 j k29 _3 k78 _ k11 _4 k2 p31 _ j55 _9 j14 _2 j10 _2 j4 k28 p4",
   "k67 _24 k5 m23 _10 l6 _2 l6 _2 l6 _9 l7 _ l7 _ p48 q4 p2 u2 w4 _4 q80 k46 _2 k10 _6 b11172",
   "_12 k23 _4 k49 _4 b2048 a6702 m2 f59 k3 _2 h106 _38 a7 _12 a5 _5 d a25 _ a5 _ a _ a2 _ a2 _",
   "a108 l16 x _16 a365 x16 a64 _2 a54 _7 x e32 a12 f g x2 f16 h10 _6 a4 j3 p7 q2 a21 f2 g2 a10 _",
   "a19 _ a4 _4 a3 f a _ a135 _2 a _ a94 f2 a94 _3 a6 _2 a6 _2 a6 _2 a3 _3 a7 _ a7 _10 d3 c a3",
   "g12 _ g26 _ g19 _ g2 _ g15 _2 g14 _34 g123 _5 g3 _4 g45 _3 g9 h75 p2 r2 _ j12 w _3 p _47 j46",
   "_130 j29 _3 j49 _15 p28 _4 e31 p e4 _9 s3 e27 _5 p43 _5 g30 _ g h36 _4 h14 _42 e38 g2 e38 g80",
   "_2 g10 _6 r36 _4 r36 _4 p40 _8 p52 _11 p x11 _ x15 _ x7 _ x2 _ x11 _ x15 _ x7 _ x2 _3 A52 _12",
   "p311 _9 p22 _10 p8 _24 x6 _ x42 _ x9 _69 g6 _2 g _ g44 _ g2 _3 g _2 g k22 _ k9 p63 _8 p9 _48",
   "q19 _ q2 _5 q5 i26 k2 _3 i j26 _5 j _64 m56 _4 q2 m2 q16 _2 q46 h4 _ h2 _5 h8 _ h3 _ h27 t2",
   "_2 h3 _4 h9 t _7 h9 _7 k32 p32 _32 p39 _4 p12 _9 k54 _3 k29 _2 k27 _5 k8 p18 _7 p4 _12 p7 _80",
   "k73 _55 q51 _13 q51 _7 q6 t40 _8 t10 _6 A38 _3 A29 _8 A2 _208 k31 _ w42 _ w3 _2 w2 _16 A3 _55",
   "A y3 t40 _8 t42 _22 x26 _38 w28 _20 u23 _9 l78 _4 l30 x6 _9 p k66 x _10 t _2 m25 _7 m10 _6",
   "m53 _ m14 t3 w _8 p39 _9 m73 q4 p w2 m10 p q5 _ p20 _11 p18 _ p43 r y3 _62 q7 _ q _ q4 _ q15",
   "_ q11 _6 p59 _5 p10 _6 q p3 _ p8 _2 p2 _2 p22 _ p7 _ p2 _ p5 _ t p9 _2 p2 _2 p3 _2 q _6 p _5",
   "p7 _2 p7 _3 p5 _11 A10 _ A _2 A _ A38 _ A10 _ A _2 A _ A4 _ A10 _ A2 _8 A2 _29 r90 w r _ r t",
   "u w2 _30 p72 _8 p10 _166 p54 _2 p18 q20 _34 p69 _11 p10 _6 r13 _19 m56 u x _6 m10 _6 A20 _28",
   "q26 t _2 q15 _4 q16 x7 _185 t60 _100 p83 _12 p w7 _2 w _2 w8 _ w2 _ w30 _ w2 _2 w12 _9 w10",
   "_70 u8 _2 u46 _2 u11 _27 s72 _8 s52 u2 s23 t s5 _13 x16 p57 _7 y10 _182 A34 _14 A10 _6 r9 _",
   "r45 _ r14 _10 r29 _3 r32 _2 r22 _ r14 _73 s7 _ s2 _ s44 _3 s _ s2 _ s9 _8 s10 _6 t6 _ t2 _",
   "t37 _ t2 _ t6 _7 t10 _310 t25 _7 y17 _ y41 _3 y28 A _85 w _15 u50 _13 u i879 p42 q _102 i99",
   "p12 _ i4 p _11 q196 _2636 x99 _13 k1071 y u9 y29 _10 A3995 _5 q583 _6841 A58 _1734 l569 _7",
   "p31 _ p10 _4 p2 x79 _ x10 _6 p30 _2 p6 _10 p70 _10 p10 _ p7 _ p21 _5 p19 _432 A58 _198 t91",
   "_101 m69 u6 _4 u m47 u9 _7 m17 _64 r s u2 w _11 w2 _14 r6125 t5 u6 _8 r755 w483 _41 A w9",
   "_8935 x4 _ x7 _ x2 _ l2 s285 x4 _15 y _29 u3 _2 y _14 u4 _8 s396 _2308 p107 _5 p13 _3 p9 _7",
   "p10 _2 p8 _3932 A250 _6 A436 _76 x46 _2 x23 _9 x116 _60 e246 _10 e39 _2 j e180 q11 x2 _21 h70",
   "_122 y20 _12 t20 _12 g87 _9 i18 t7 _135 e85 _ e71 _ e2 _2 e _2 e2 _2 e4 _ e12 _ e _ e4 g e2 _",
   "e65 _ e4 _2 e8 _ e7 _ e28 _ e4 _ e5 _ e _3 e7 _ e338 h2 _2 e290 i2 _2 e50 q652 _15 q5 _ q15",
   "_1104 x31 _6 y6 _213 r7 _ r17 _2 r7 _ r2 _ r5 _5 y62 _33 y _112 u45 _3 u14 _2 u10 _4 u2 _320",
   "x31 _17 u58 _5 u _464 y42 _214 A43 _4 A _480 x7 _ x4 _ x2 _ x15 _ p197 _2 p16 _41 r75 u _4",
   "r10 _4 r2 _785 t68 _76 u61 _194 m4 _ m27 _ m2 _ m _2 m _ m10 _ m4 _ m _ m _6 m _4 m _ m _ m _",
   "m3 _ m2 _ m _2 m _ m _ m _ m _ m _ m2 _ m _2 m4 _ m7 _ m4 _ m4 _ m _ m10 _ m17 _5 m3 _ m5 _",
   "m17 _52 m2 _270 j44 _4 j100 _12 l15 _2 l14 p _ l15 _ l15 p22 _10 k11 p2 w3 k31 t l k l11 k l",
   "k l2 k l3 k l3 k5 l8 k l7 k l10 m2 u w3 l9 k l k2 l2 k l10 k4 l2 k l10 r18 w _56 l26 k l2 _13",
   "k34 l9 r _4 k9 _7 l2 _14 s6 _154 l33 p12 q3 l6 p l70 p q2 l20 p12 l37 p l5 p4 q5 p12 l17 p7",
   "q8 l63 p l p l182 p l4 p2 q l62 p2 m4 p7 q5 l24 p18 r p41 r p86 l5 m l16 m l3 m l m l m l m",
   "l3 m l6 m2 l4 m l m2 l4 m l12 p2 q2 l11 p48 l70 p10 q r2 s2 u w2 _4 y x3 p13 _3 p4 r3 s2 t u",
   "w2 _3 l116 y3 _4 y5 p85 t4 y _6 u12 _4 x _15 p12 _4 p56 _8 p10 _6 p40 _8 p30 _2 w2 A10 _4 A2",
   "_62 s12 w u3 q9 r6 s r8 s8 r s2 r12 u r12 s t3 r15 s13 t5 u w t4 w2 x t u t4 q5 r13 s6 t11 w2",
   "u6 w3 u2 t10 u6 q t2 u8 w x u3 s23 t25 u84 _12 t14 _2 u4 w y3 u3 x2 _3 u3 w4 y2 A _5 A u6 w19",
   "x4 y3 w7 x4 y3 A y w3 x3 A _7 y2 w7 x3 y2 A _2 A x8 y A _6 x7 y2 _7 w147 _ w55 A37 w10 _1028",
   "b2 e42711 w7 x2 _32 k4149 x4 y _6 l222 _2 q5762 _14 s7473 _15 z622 _2466 e542 _1504 b2 w4939",
   "_5 y4192 _56398 b2 _65534 b2 _65534 b2 _65534 b2 _65534 b2 _65534 b2 _65534 b2 _65534 b2",
   "_65534 b2 _65534 b2 _65534 b2 _ e _30 e96 _128 g240 _65038 b131074"]

/-- The runs of the table. -/
def ageRuns : List Run :=
  runsOfLines ageTable

/-- The characters that were assigned in a version or before. -/
def assignedUpTo? (version : String) : Option CodeSet :=
  let older := versions.takeWhile fun v => v.2 != version
  (versions.drop older.length).head?.map fun v =>
    let letters := (older ++ [v]).map fun v => String.singleton v.1
    setOfRuns ageRuns fun value => letters.contains value

end Scriptlet.Unicode
