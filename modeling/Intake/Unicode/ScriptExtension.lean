/-!
# Script extensions

The sets of characters that are used with each script, where they differ from the characters of the
script itself. Each set is written as pairs of
numbers: the gap after the range before, and the length of the range less one. A number is in base
32; its last digit is one of `0`-`9` and `a`-`v`, the digits before it are `A`-`Z` and six signs.
-/

namespace Intake

namespace Unicode

/-- The characters used with each script. -/
def scriptExtensionTable : List (String × List String) :=
  [
    ("Adlam",
      ["BQv0B00GQe0DPh0DOVuCb4941"]),
    ("Arabic",
      ["BQ041Gm1B1CgBfHgB15Ca1sF+f0DPh0BTIeTvB0fDg41E6>3rC=4uC3588B15BXY031q111020191310106040",
       "1010121110201010101011102316131310191g52141gBk1"]),
    ("Armenian",
      ["Y80R8B52Bh22B:M34"]),
    ("Avestan",
      ["Fn0LLo1BXGeBl36"]),
    ("Bengali",
      ["Vs0BUk1h1q317212l1610332821238041142oEWh01021108080204022BC>p0"]),
    ("Bopomofo",
      ["W7012d0g1LIl2491ca32060G309BaDgvBTE51Iq4"]),
    ("Buginese",
      ["GQ0r21BD:f0"]),
    ("Buhid",
      ["FZl19j"]),
    ("Carian",
      ["Fn0H:2020DOj0BVDeBg"]),
    ("Caucasian_Albanian",
      ["Y40Bc0Bc0CAOhBjb0"]),
    ("Chakma",
      ["CP69BSg9CAFmBk1h"]),
    ("Cherokee",
      ["Y021061m1b1EDeCl25BF=iCf"]),
    ("Common",
      ["0C0q5qBe1b1114n0v0O12191030181015542jDu06010Tt0Gn0Q40BKs0Ml3EB7b2B01u1911161a3a1ehB1Bu",
       "B512251q1gB924Upmal*vI0Tj2E9Q0m1n2913101pN2030d0d0l0Qhnv0Bhec3F195Cvv0GO0BvWI8pD62<g0e",
       "1UV49mk2b1i13Ej01vq5q5Dv616a4MicBjBcBSQ3Hs3Nj6mfgCvDjBsHlaB62Bt3g817t4BsGljcjcCmr6E7Ck",
       "1C6112021231b10161C01327161r131410361Kj2J32BhFDhC3CcBsW2Bb4D3ce2e1e1B4aFdBop11dBb48n5E",
       "q<o3g3c3Gp6b40fb4Bn896B78t2b41e8B7Kn8d2c3a3Bo104f2b497Ei1D6YBA60uCv"]),
    ("Coptic",
      ["Fn0S803110Dc1DcdKEgDj56In0BVG8r"]),
    ("Cypriot",
      ["CAI024Bc38BW05201Bb113020"]),
    ("Cypro_Minoan",
      ["CAI01LUeD2"]),
    ("Cyrillic",
      ["Vs0C321010102050HeJfF+gaF00Cc0Dv0D>7vC30:>sCvV*e1BYQ0BtB10"]),
    ("Devanagari",
      ["Vs0BS3Ci2BaE+gB611>m0BBZv9F6v*Q09"]),
    ("Dogra",
      ["CL4bBHW09=<6Br"]),
    ("Duployan",
      ["Fn0Sf110o1KYn0DDO3Da5c387927"]),
    ("Elbasan",
      ["Fn0Sd0CAPqB7"]),
    ("Ethiopic",
      ["Ye0DXhC8132610132B8132B0132610132e1Bo132C22v3pGP6m9616161616161616>J2525259616CPFh6131",
       "11e"]),
    ("Garay",
      ["BQc0e030CBZ0B53s81"]),
    ("Georgian",
      ["Fn0BGh0CYmB510502BfC*gBa22*q0DF5B51050I30"]),
    ("Glagolitic",
      ["Fn0Sb010Lu020I10C=h0D+u0C:5CvP30<Bb0COMg61g261114"]),
    ("Gothic",
      ["Fn0Sc120B80B>>uq"]),
    ("Grantha",
      ["CKh1h1U0dEGs011u231>m0B*Qf317212l1611141921222060562634DCr110"]),
    ("Greek",
      ["Fn0S81201010a0Be020Ba72310401012101j1BuefGJ64Bi444Ck2Jul252B525271010101u2Bk1e1d251i22",
       "18Cu0G80BCRu0VOqCeh0BUCvC5"]),
    ("Gujarati",
      ["CKh1h1Ir218121l16111429121220f32b76BHJg9"]),
    ("Gunjala_Gondi",
      ["Fn0CFc1CE>q5111B4111579"]),
    ("Gurmukhi",
      ["CKh1h1Er215412l16111111201441223073107gBHNp9"]),
    ("Gurung_Khema",
      ["CL50CV*qBp"]),
    ("Han",
      ["Fn0LO8p1CocGlqf121c1c1c2068Fr0EkfB0B590BgB7BoBgfbBj0Cooa4D0u1GNvC0UPvBY07UPoLd2D9=b1Iq",
       "4*Ds1c6Y=9hHWu1DNeBJWvB0EIt2FUd2HJgfTdCN2QtBP2E+a5IJ9"]),
    ("Hangul",
      ["EI0HvHQ12491ce260G30BlCtDhuC1u:X1sU3K:3cm4BgJS91Iq4Bqu35252522"]),
    ("Hanifi_Rohingya",
      ["BQc0e030B00Ej0CBRbB789"]),
    ("Hanunoo",
      ["FZ0m"]),
    ("Hebrew",
      ["Y71U8Bm8q45B:J8p1410111119"]),
    ("Hiragana",
      ["MA12491cg510413Cl27Cq1BTK81Iq4a0Bd1BMD1Iui0t2QFd0"]),
    ("Inherited",
      ["Yf0201e36202f111h1413BPg1EKrBd2bWmBl1014Qc1G2vBXIgfgd<f0BTI2Bd2mR02h726u3YL+iHf"]),
    ("Javanese",
      ["BKM0Cd1a41"]),
    ("Kaithi",
      ["CL69JG10<Pu9+C6C2a0"]),
    ("Kannada",
      ["CKh1h1Yqc121m19142812137152132912D<s01160n010BCZr5"]),
    ("Katakana",
      ["Y50t0LGt2491cg51041Cr33CvHgfGgBe1CnBSXd1IqBuBMCg3161110Iv2Bi0e3"]),
    ("Kayah_Li",
      ["BKI0Bf"]),
    ("Khojki",
      ["CX69BHK09+O6h1Be"]),
    ("Khudawadi",
      ["CL41BHWa9+TmBq59"]),
    ("Latin",
      ["C1p6pBf0c0205m1u1O030a01210901064re1110f27111B60504cIl1BGa1B:80DA4B56Bg535c1C5Bp07HvJf",
       "0C10d0gcCj0Bp160r0hB8CWnvMn0<H87qD53ChkeJe0Q1Ba1813T*m6BAqp6pCB551B918BV+5u65"]),
    ("Limbu",
      ["CL50D*qu1b4b403b"]),
    ("Linear_A",
      ["CAI7BcBGcJm9la7"]),
    ("Linear_B",
      ["CAA0b1p1i111e2dB2Dq524Bc38"]),
    ("Lisu",
      ["Vs0g0LJs1:G4Bf<Vg0"]),
    ("Lycian",
      ["ICq0BYR5s"]),
    ("Lydian",
      ["Fn0LLp0BWXep50"]),
    ("Mahajani",
      ["Fn0CFcbBHW09+ImB6"]),
    ("Malayalam",
      ["CKh1h1*qc121Bi12154f2pD+q0n0BCZt2"]),
    ("Mandaic",
      ["BS00Pvr20"]),
    ("Manichaean",
      ["BS00CBDvB64b"]),
    ("Masaram_Gondi",
      ["CL41CE*q6111Bb30111889"]),
    ("Meroitic_Hieroglyphs",
      ["ICt0B+J2v"]),
    ("Modi",
      ["BKBg9=O6C4b9"]),
    ("Mongolian",
      ["GA0p6Co7BaB*40D<h153BZSkc"]),
    ("Multani",
      ["CT69CCAg610131e1a"]),
    ("Myanmar",
      ["EA0EvBGEe0FhuD1v=Cgj"]),
    ("Nandinagari",
      ["CKh0i1*09D>p08070BCZl5*La72Bd2a"]),
    ("Newa",
      ["CKh1E*201190601010B:YiCr14"]),
    ("Nko",
      ["BQc0e030N0Bq22B:Ju1"]),
    ("Ol_Onal",
      ["CL41DXDaBa40"]),
    ("Old_Hungarian",
      ["ICq020DOj0f0BXRuBidBi75"]),
    ("Old_Permic",
      ["Fn0S8052a0Lf0B>WcBa"]),
    ("Old_Turkic",
      ["ICq0DOl0BXOfC8"]),
    ("Old_Uyghur",
      ["BS00CBFh0BDtp"]),
    ("Oriya",
      ["CKh1h1Mr217212l1611142821227241142hEL20n0"]),
    ("Osage",
      ["Y102060Cc0CAKnB34B3"]),
    ("Phags_Pa",
      ["GA2110CB90D<i0<BtBn"]),
    ("Psalter_Pahlavi",
      ["BS00CBJvh73c6"]),
    ("Runic",
      ["FV0Co"]),
    ("Samaritan",
      ["CA0Bd2eJPi0"]),
    ("Sharada",
      ["CKh0E*501021209020BC+2520+K7CvCM07"]),
    ("Shavian",
      ["Fn0CA*oBf"]),
    ("Sinhala",
      ["CL41BAr21h3n181026304510176922DXt0B:Hej"]),
    ("Sogdian",
      ["BS00CCHfB9"]),
    ("Sunuwar",
      ["Y01109020s030CGEeB1e9"]),
    ("Syloti_Nagri",
      ["CL41E09BHQgBc"]),
    ("Syriac",
      ["Y312110o27111Wq0e120B00aaq0Efd1Br22IgaFMd010"]),
    ("Tagalog",
      ["FY0l90l1"]),
    ("Tagbanwa",
      ["FZl1B9c1211"]),
    ("Tai_Le",
      ["Y015130DJj9CI6t24"]),
    ("Takri",
      ["CL41BHWa9=S6Bp69"]),
    ("Tamil",
      ["CKh1h1Qs115321331101131323b4432132060ekEGv0BDAo0+Qd010Bn1DE3Bhd0"]),
    ("Tangut",
      ["L>gfPf0CPPg0vGXvQ0uD1Di"]),
    ("Telugu",
      ["CKh1h1Uqc121m1f281213711211232978ECl11010n0"]),
    ("Thaana",
      ["BQc0e120C09ImBhB:S00a0"]),
    ("Thai",
      ["Vs0q0Bb0Bd0CWfBp5r"]),
    ("Tibetan",
      ["DY0C71B34B61B31e1641IBd3"]),
    ("Tifinagh",
      ["Y201013p0KQcBn71e0"]),
    ("Tirhuta",
      ["CKh1h1E=f0c0f0BCZt9=C6C789"]),
    ("Todhri",
      ["Y1020209010Ca0CAT1Bj"]),
    ("Toto",
      ["Vs0DX<ju"]),
    ("Tulu_Tigalari",
      ["DH69EA2010BCZr5Fr0+Ue910201B519102013191181"]),
    ("Yezidi",
      ["BQc0e030C09CCAmB91221"]),
    ("Yi",
      ["MA115927Gv0=Y4BEc3BmWUq4"])
  ]

end Unicode

end Intake
