/-!
# Binary properties

The sets of characters that have each binary property. Each set is written as pairs of
numbers: the gap after the range before, and the length of the range less one. A number is in base
32; its last digit is one of `0`-`9` and `a`-`v`, the digits before it are `A`-`Z` and six signs.
-/

namespace Intake

namespace Unicode

/-- The characters with each property. -/
def propertyTable : List (String × List String) :=
  [
    ("ASCII_Hex_Digit",
      ["Bg975q5"]),
    ("Alphabetic",
      ["C1p6pBf0a0405m1u1O94be47010Cm0th1123106012101j1Ci1Ea8F51B5206B8B7d101111108q43ta5Bn16e",
       "D5174742a220gBfdD4oB091405n2ijo7a5n16708B9ab366Cb1f124edi17212l16103337212110804114c1a",
       "04215412l16111111444121407310h5b218121l16111438121130f3l34217212l161114372121914114d0g",
       "115321331101131323b4432123060B8c121m1f37121281121123s317121m1914371212815213d2cc121B82",
       "71212105374m5121h3n181026851017i1dBp5660Bj110141n101i12241060e3B00Bv71B34i4f1B3C3Bm102",
       "4gBva32B510502Ba1Kc132610132B8132B0132610132e1Bo132C2B5fgCl253Tb2g1p5Ca3a7jbkcjcc1211c",
       "Bj2ie040C3Co7Ba5C5au1b48nt24bBb4pBmr4Bu2jBi0n1b2BhBj1e17BjB923aBb1aeBmm2aB32a5Ba22B931",
       "511305FvjB1bIl252B525271010101u2Bk1610321633254c5216Dk0d0gcD5040291034601010131a235440",
       "hB8ZdBjBYmH46331cB510502Bn70gm96161616161616161vBf0Ol2p874244Cl621Cp135Ba1CthvBgfQ0GNv",
       "C0VUcC3Bd2Ic3fa1kBe573DgB782D62Chkk1B0oBjcC310Bc53012aB05B2ds3Bi1bf0gfa41Bm9dim3C41010",
       "o22f23b5252596161Ba1d6DqlK:3cm4BgII4Ld2D9B66c45b1c141011111DbB1LaiBv2BlB8bDk41E6B4p6pb",
       "Co35252522B3b1p1i111e2dB2DqC5BkIbs3BgBfvdt5Ba5t2B34714BaEtiB34B34B78Bjca1e16111a1e1611",
       "3BjcJm9la7o51B918C55201Bb11302mam9uC1i11alap6pB6Bn61C031157121sBas3sB371rrBlalaidhDeC8",
       "BnBidBidB7B2r305mHqB91131g5Bi23sa08lBahBekrm9C5Bb4aBo90donBih38B2309Bv1391a010B3h1B120",
       "63Bu610131e197Bon317212l161114372121306056s910201B519102013113010BcC11213k2uC12110FoBl",
       "26p5B2Bu1030BrBl20C7q2dl6FpBoD7Bvv72027111t112123Ct72Bd251011rBi29hC750iC8D77CoB0v81Bc",
       "1610Bht2l1dC96111Bb3011121021o5111B4111310nBbI4m9g1B832Df0Cf*pD6DehG3CScD0fBBfh5pD*q5S",
       "6GVpBeBWhRo7uhCehtiBfg3vk5iNgBcGjBvB0o2oBcCa4Bo7gC0110c69HGlB9vD1DiIPt316111J2f0t220e3",
       "8MbCI4Da5c387940F=1Ck1C6112021231b10161C01327161r131410361Kj2o1o1u1o1u1o1u1o1u1o17BZku",
       "65Gl61g2611145BtB10DgBca6g0K1tiBbP4rH4t20Gfu1l81H0613111e1G4BrC33030BFk31q111020191310",
       "1060401010121110201010101011102316131310191g52141gTkp6p6pDTmBJWvB0EIt2FUd2HJgfTdCN2QtB",
       "P2E+a5IJ9"]),
    ("Bidi_Control",
      ["BQs0GPh1q4Bn3"]),
    ("Bidi_Mirrored",
      ["B81i010s010t010Bd0f0DTu3B+t1CMs1a1Bm1e1Fh0G033530313313101048501h539110171v2350912i519",
       "4214n2f83k171BBtdCa023111253523dMjl251d807530441124401221a521ci13201020135162o1b143112",
       "14Ba271B750103452403410I00Q333111e129Bb7Nb927BTRt551F21i010s010t0101111BV=n0Bp0Bp0Bp0B",
       "p0"]),
    ("Case_Ignorable",
      ["B7060b0B3010C7040104021PnFv41409110Hr6Gf050BhBc10111110Bc0b5aa10B30akg0D571913B1010uqC",
       "raBqa4020onBb2Bc07158B9BpBn010474036a1d0f0Bq04380k1q021Bp041412230u130b1Bp0441140k1m51",
       "0Bq020138071b1u0Bt0c0Bi030Bn012521371b1t0Bq0206051k1s1Bp14380k1t0C807210Cq026b8D202890",
       "16C91r01010Bnd14115a1B390D63151121p142g3d02160f0Cu0T02:i2t1u1u1C0116802a3050Bd4Bj0C11B",
       "20Dm2419062Gr120Bq0161010276920B708Bd2bk3Bg0141050B88c1B032112Bo0113012Bq721C05Ci21c16",
       "406031BiBud0B2D4Nt012b2d2d2d1c481a02024Bh41910d0gcBjB0C*b1Dh2Dt0f0D0vBf0Ol0B433450Ct5C",
       "t2=Ym0BH25Ie0D231910s3Cg1eB1Ce0n2D6331803040p150En1qhd0B67paBe2Bg02321h0l1C252121c080B",
       "30b0Bj012215110r0e15110D4492Dp02040TZg0EjgRtf30cfB2020F907060b0B3010Bf0Bd1C30l2Q10H20E",
       "l4BA551B918S621153B8240F51Rt3B60q410Jr1o0Bk5C6aBh3Dr0BmeB9021a2Bh3212040a0Bi2B4417Bu0c",
       "1Bk8a320Cv220116020Et037l1Bp130B5634C65d01010e1Cl72210n0Ck5104111He36111r1Cl72011Da010",
       "2510D50102314I3811I011040Eg32140B09B8523809522Bec11G601210G961510Cil261111Dq530111610C",
       "813010C10Ip1b1Bk45010n0FGlg6eLG8b32CO04Br693Ps2B81P20BvgC0111d1P>s31611DEu113ESsBd2mR0",
       "29f26u3Ek2B:rBm4Bh80e0m41eBKg61g2611145BtB10F0dLg0Bt3Pr4Hu1Hj020715090Og6Dd7CVf4YDA10u",
       "CvE0Hf"]),
    ("Cased",
      ["C1p6pBf0a0405m1u1G2134Gf2B271u4D00Ba32123106012101j1Ci1Ea8F51B59B8CYnB510502Ba13V0Cl25",
       "CE2a5Ba22C0FvC0Il252B525271010101u2Bk1610321633254c5216Dk0d0gcD50402910346010101315402",
       "35440hv31ZhBjBYmH46331cB51050<IiBditE4D5331Cck512ZlBa1d6CfT+06c4BA9p6pBF5CfD0B34B3Dka1",
       "e16111a1e1611O30221B918BG5BidBiCtlalCYqBvVL0BvB0o2oZJcCk1C6112021231b10161C01327161r13",
       "1410361Kj2o1o1u1o1u1o1u1o1u1o17BZk91j65I5BtCEiC3B>cp6p6p"]),
    ("Changes_When_Casefolded",
      ["C1pCq0am17B001010101010101010101010101010101010101010101010101010102010101010101010111",
       "01010101010101010101010101010101010101010101110101011101112231112311110101110201112101",
       "13071111110101010101010102010101010101010102110121010101010101010101010101010101010101",
       "0101010101010101010107111201310101010Hm0Ba0103080601210111g18m0c2311010101010101010101",
       "01010112110112BiBg01010101010101010101010101010101090101010101010101010101010101010101",
       "01010101010101010101110101010101020101010101010101010101010101010101010101010101010101",
       "01010101010101010101010101010101010101010102B5Bg0CYoB51050Za5CE296Ba22K001010101010101",
       "01010101010101010101010101010101010101010101010101010101010101010101010101010101010101",
       "01010101010101010101010101010101010101010101010105120101010101010101010101010101010101",
       "0101010101010101010101010101010101010101010101010101010101010109785a78785b010101087gBf",
       "22255225b3c45225J903160Bdfj0ZipBZgBfBg012201010131020821010101010101010101010101010101",
       "0101010101010101010101010101010101010101010101010101010101010101010801040<Kd0101010101",
       "01010101010101010101010101010101010j010101010101010101010101010E7010101010101030101010",
       "101010101010101010101010101010101010101010101010101010a0101110101010401020103010101010",
       "10101010101414101010101010101310111010101010101010o0=qCfT+06c4BA9pBG5B7E8B3Esa1e1611BX",
       "aBiEtlCZqvVM0vC0o<S7B1"]),
    ("Changes_When_Casemapped",
      ["C1p6pBq0am1u1Bv1Cj1r2d21104Cs1h6q1110113113142011207020113550a1F60Ba32132106012101j1Be",
       "3B0141E48F51B5aB6CYoB510502Ba22V0Cl25CE2a5Ba22Fp030g0DhEr201Dl252B525271010101u2Bk1610",
       "321633254c5216J903160r0hv31ZhBjBYmDg11117D57331cB51050<IiBdirE6d2Bt9e32241o1Bco1+s0sCf",
       "T+06c4BA9p6pBF5CfD0B34B3Dka1e16111a1e1611BW3BidBiCtlalCYqBvVL0BvB0o2o<RcC3"]),
    ("Changes_When_Lowercased",
      ["C1pD5m16B10101010101010101010101010101010101010101010101010101010201010101010101020101",
       "01010101010101010101010101010101010101010111010311011122311123111101011102011121011307",
       "11111101010101010101020101010101010101021101210101010101010101010101010101010101010101",
       "010101010101010107111201310101010J10103080601210111g18B3080101010101010101010101050201",
       "12BiBg01010101010101010101010101010101090101010101010101010101010101010101010101010101",
       "01010101110101010101020101010101010101010101010101010101010101010101010101010101010101",
       "01010101010101010101010101010102B5C+9B51050WiClCEj06Ba22K00101010101010101010101010101",
       "01010101010101010101010101010101010101010101010101010101010101010101010101010101010101",
       "01010101010101010101010101010101010901010101010101010101010101010101010101010101010101",
       "010101010101010101010101010101010101010101010109785a78785b010101087o7878784b4b3c4b4J90",
       "3160Bdfj0ZipBZgBfBg0122010101310208210101010101010101010101010101010101010101010101010",
       "101010101010101010101010101010101010101010101010801040<Kd01010101010101010101010101010",
       "1010101010101010j010101010101010101010101010E70101010101010301010101010101010101010101",
       "01010101010101010101010101010101010a01011101010104010201030101010101010101010141410101",
       "0101010101310111010101010101010o0VZbpBG5B7E8B3Esa1e1611BXaBiEtlCZqvVM0vC0o<S7B1"]),
    ("Changes_When_NFKC_Casefolded",
      ["C1pC50701020102322121m17B0010101010101010101010101010101010101010101010101012102010101",
       "21010101110101010101010101010101010101010101010101010111010101110111223111231111010111",
       "02011121011307910101010101010201010101010101010231210101010101010101010101010101010101",
       "010101010101010101010107111201310101010D18v524Cr11290B0010101030314610111g18m0c7101010",
       "101010101010101010121110112BiBg0101010101010101010101010101010109010101010101010101010",
       "10101010101010101010101010101010111010101010102010101010101010101010101010101010101010",
       "101010101010101010101010101010101010101010101010101010102B5Bg0Ek0Co3Wv7Ds110Cj020B2220",
       "Ht1Wl0Dv0B81Be0Bm090404040c0901470h090404040c0H6B51050Be0D21Un5:m1Cl4BDg96Ba22Dc21a1h1",
       "rd0B2B4C001010101010101010101010101010101010101010101010101010101010101010101010101010",
       "10101010101010101010101010101010101010101010101010101010101010101010101051201010101010",
       "10101010101010101010101010101010101010101010101010101010101010101010101010101010101010",
       "9785a78785b010101087101010101010102Bf222d28304312304722271f1050c2353111401082d07i2q1cb",
       "0Cn3121a112422101010131a15446Bf3050F2111Ho1JlEaBJ10D72D50J3BfBg01220101013102064101010",
       "10101010101010101010101010101010101010101010101010101010101010101010101010101010101010",
       "101010801040Ds0Jf0Cj0cGlBa0Bl012D0120Cv0BhCt3dD0u1B78Be1Lv*S00101010101010101010101010",
       "10101010101010101010j01010101010101010101010101011E40101010101010301010101010101010101",
       "01010101010101010101010101010101010101010108010111010101040102010301010101010101010101",
       "414101010101010101310111010101010101010k421=23906CfTK0Id2010291010213C32D9B66c4501n141",
       "011111DbB1LaiBv2BlB8c3pmk2b1i1342101E6201Ft35252522361618BA7B7E8B3Esa1e1611Pb41B918BG5",
       "BiEtlCZqvVM0vC0oTP73EBiB3BD46e7C05RvCk1C6112021231b10161C01327161r131410361Kj2J32BhCBg",
       "BtCEiB1BGu31q1110201913101060401010121110201010101011102316131310191g52141gS4a5u1vq2B3",
       "0Df2dBb4871CMu9B>A6QtWBP2D>v"]),
    ("Changes_When_Titlecased",
      ["D1pBq0B9n17101010101010101010101010101010101010101010101010101010102010101010101011101",
       "01010101010101010101010101010101010101010102010122010203050203220201010204020301020301",
       "04011111010101010101010111010101010101010121010301010101010101010101010101010101010101",
       "030101010101010101080211040101010151110113113142011207020113550a1F60Bb0103032i0rB21132",
       "101010101010101010101014102020BkBf1010101010101010101010101010101010901010101010101010",
       "10101010101010101010101010101010101020101010101011101010101010101010101010101010101010",
       "101010101010101010101010101010101010101010101010101010101010BhB6DTg5CE2810He030g0Di010",
       "10101010101010101010101010101010101010101010101010101010101010101010101010101010101010",
       "10101010101010101010101010101010101010101010101010101010101650101010101010101010101010",
       "101010101010101010101010101010101010101010101010101010101010101010101885a78785a7878d27",
       "87878411603211832187a211Km0B1f40+bpB+6Bf10311010106020a0101010101010101010101010101010",
       "10101010101010101010101010101010101010101010101010101010101010101010801040cB51050<Ij01",
       "0101010101010101010101010101010101010101010j010101010101010101010101010E70101010101010",
       "30101010101010101010101010101010101010101010101010101010101010a01020101010104040112010",
       "1010101010101010b01010101010101040102010101010101010q0+s0sCfT+06c4BB9pBGdB7E8B3Era1e16",
       "11BY3BiDtlCZqvVM0vBro<SeB1"]),
    ("Changes_When_Uppercased",
      ["D1pBq0B9n17101010101010101010101010101010101010101010101010101010102010101010101011101",
       "01010101010101010101010101010101010101010102010122010203050203220201010204020301020301",
       "05111111010101010101011101010101010101011111030101010101010101010101010101010101010103",
       "0101010101010101080211040101010151110113113142011207020113550a1F60Bb0103032i0rB2113210",
       "1010101010101010101014102020BkBf101010101010101010101010101010101090101010101010101010",
       "10101010101010101010101010101010102010101010101110101010101010101010101010101010101010",
       "1010101010101010101010101010101010101010101010101010101010BhB6C+8Ba22Xo5CE2810He030g0D",
       "i0101010101010101010101010101010101010101010101010101010101010101010101010101010101010",
       "10101010101010101010101010101010101010101010101010101010101010165010101010101010101010",
       "1010101010101010101010101010101010101010101010101010101010101010101010101885a78785a787",
       "8d2Bk114010321140332187a21140Kh0B1f40+bpB+6Bf10311010106020a01010101010101010101010101",
       "0101010101010101010101010101010101010101010101010101010101010101010101010801040cB51050",
       "<Ij010101010101010101010101010101010101010101010j010101010101010101010101010E701010101",
       "0101030101010101010101010101010101010101010101010101010101010101010a010201010101040401",
       "120101010101010101010b01010101010101040102010101010101010q0+s0sCfT+06c4BB9pBGdB7E8B3Er",
       "a1e1611BY3BiDtlCZqvVM0vBro<SeB1"]),
    ("Dash",
      ["Bd0BKs0Bj0DS10BA50CA95Bt0B70f0M60DA4020v140s0Nu0j0Df0BTMg1B50a0F90DT00Ju0"]),
    ("Default_Ignorable_Code_Point",
      ["Fd0V10Wc0C+21BSj1Cl4B>r4q4BhfEHk0BTErfHf0F00Cf8BPF73FGf7YLU5D>v"]),
    ("Deprecated",
      ["K90BJ90CI3010CB91CG55Vp1=XGm0"]),
    ("Diacritic",
      ["Cu010C70604021PnEu1755h14091Ht4Gh0BnBc10111110E3741E614132C3qCraBqaB21Du7B99grBt0g033s",
       "0Ca0g0De0g0De0g0Bf2Bs0g070Dn0De0g0De0g0Dd1g0Ds0Df0c510Db0d4Cb1r0101041C2211Bu0Dg011B81",
       "44p610a1W12:k1u0Eka90Kr2J40k720Bge2a3e2bC80f0B68Bm1Bq0b1C21C05Cio406022BiBuBgB35bB5aNt",
       "012b2d2d2d1DHg2Jt0Pq5D93Cv0:Li0c110s1Ci1eB1D62D6061c0B50En0rhBp3B40Cv0c0B40El2C13Bj0D4",
       "492E01TZg0Y1fIe010Bf0Bd1C30Xs0BEv51B918Tt240F51Rr5B60q4Mc022C6aBh3G00B90C81Do1Bu0Cc092",
       "D81Fi1Cg1g0o634Cp211d1Cv030Dr1Hr1Du0Dm1Dj0Id1I2140Es0Cj0i0Ch0N50I2011Ch0C10L71n0FHceLG",
       "p0CO04Br6Rk1R2gCg1P>u31611HY1Bd2mR02358726u3DU2BtG26Ln0Bt3Xu1X06Dd212"]),
    ("Emoji",
      ["B306059Df040H*d0c0Go0m0Cq5f1Lf1c0F60pa42G70H71a090Bq314902021204020112030318250105bb12",
       "01110i021i5101131502141b15120511011k155132040202510201010603060a1f02040104210b1Bg290e0",
       "e0Lk1Of2j1Bj040BGq0c0Sp010DPLa0Ga0F01c1e029Cbp11n0k028l1FeB12Df21122Ci221I61Bub51n7127",
       "c0232041d120819052c28220104060306ClBgC557233930113029H3b40IrBe191FoDgc3a3Bo104f2b49"]),
    ("Emoji_Component",
      ["B306059H<j0Gl0BXJb0B*<mpPr4BNg3YBTcCv"]),
    ("Emoji_Modifier",
      ["D*>r4"]),
    ("Emoji_Modifier_Base",
      ["JQt0Gr0g3DTDn0Bs22022Dl12ali3042127010o0G9140l041Fe234Cj0g290b0Rv02087609922Bo0Bt11110",
       "h21cH52Ba8"]),
    ("Emoji_Presentation",
      ["IYq1Gd33020Q91l1BibBb0j0d081h1518050l0711040207041s0B30104210Bt2o0e0+r1Bj040DRFe0Ga0Fu",
       "029Cbp10o0k02412l1FeB0c81C51lcBa44cg303C6101Fq2Bud31ni0q1d0CmCkBgC560322333b178H3b40Ir",
       "Be191FoDgc3a3Bo104f2b49"]),
    ("Extended_Pictographic",
      ["F9040H*d0c0Go0m0Cq5f1Lf1c0F60pa42G70H71a090Bq314902021204020112030318250105bb1201110i0",
       "21i5101131502141b15120511011k155132040202510201010603060a1f02040104210b1Bg290e0e0Lk1Of",
       "2j1Bj040BGq0c0Sp010DPLa0B73D4bf1f0e1B59Dg1c1e029jBnrea0k028139m6Fr2Df21122Ci22135Ht1Bu",
       "b51n7127c0232041d120819052c28220104060306ClBgC5572g30152cGqB5c3Bo7a5B87u1c32d9B6cBe191",
       "FoCo7eEhI0>t"]),
    ("Extender",
      ["Fn0Qo1=e0Np0Tm0E90Cp0Xg0Dv0CK30Bo0T30Me0C40E*90Bb4D71Ct2=Ym0BPm0<20m0E90Dc0l1VDr0CAg1B",
       "Ob0r040BG70J50Dk1Pi2BGf0+00TL81BEs110e1*K81BFh0+k2"]),
    ("Grapheme_Base",
      ["B0CuB1c1ShDg72546101j1Gv7F51B52Bh22Be01020209q45h9b01Bdlf1D48061204v201ttCob0eBa963n40",
       "90307e1o501a5vgB9BpBm10138312792s1117212l1610333011612110d1124n5015412l1611111142o3107",
       "92210c018121l16111433801130f14b708117212l16111430206121f1124hb015321331101131323b50113",
       "21230lk6217121m1f3033j2112149791a121m1914312011n2114912ea121B8201152121142194p211h3n18",
       "102691667922cBf11b78cB5110141n1019119024109923B0n2q10101d1B3i05024Bh7151cB5Bc4060212o2",
       "33f4c11251e1B710502Lo132610132B8132B0132610132e1Bo132C25s3p6Cl252Us3Co7hdi319hec12fBj2",
       "07711b839696a596Co742B1105C5au43224115703B924bBb4p6a3Bo213Bn10901185d9696dCmBfa3371s9b",
       "2v416Bn102210dBf815e3Bt5Ba2ab0d0731512205FvC0Il252B525271010101u2Bk1e1d251i22181a5n7Bg",
       "g12q1c3B1BuEb4UpmalBYj2Lo315Bc10502Bn71fm9616161616161616B1CtB2p1CocGlqBp6f1Cl4D45Ba1C",
       "t1Cl9Bf1*Tc3Bm9KrkBe40av2Cf258Gskg12131o24496Bn8C3aboc1B58ob0ct6Bf1141211c1a461o1B8612",
       "1b21710292v1Bi1031242010og27b5252596161Br4Dk1113396K:3cm4BgII4Ld2D9B66c4501n141011111U",
       "9B0fg9mB21i13441E64Es2u352525223616d12b1p1i111e2dB2Dq524Bc3Cn1c30BfBcE3s3Bggq4B39t5B5a",
       "t1B44dBaEt296B34B34B78Bjbb1e16111a1e16113BjcJm9la7o51B918C55201Bb11302m1C788Bgi115B03q",
       "5qB6Bn4j2Bef3121sa8787BvB0B46b9Bl3s2q5p73c6CgC8BnBidBi7B9c96B58n81Ggu1B93021g588B7B78l",
       "b8mh43B6rkm901Blf64t1120cBg412113eo799B3509h8B212bBj9017411f1jbh1r314511Bv610131e1a6Be",
       "12d98117212l161114301013212130c6s910201B51011f011301211B7Bn81301k1012uBf11601110202389",
       "F6Be1163202qB4Bi811023b96cjBa101181696jsq3011409mFpBe9020D4Cic72027111n1411631299C672B",
       "98313r0aB7614790613Bdd028dC879Cn03010CoB1e9681B5e015as3vp07020Cb6111B5l09965111B441101",
       "0796Bb49Hmi239e1B3813mCm0fBhd*qD6De14bG3CScD2dBBfh5pD*q5S6GVptc239BW6Ro7u194Cg196t70aB",
       "f7ea9161k5iNgBpG6Cq5o2oBcCa5BnbcC03e49HGlB9vD1DiIPt316111J2f0t220e38MbCI4Da5c38792020D",
       "=0Hs3Nj6mfgCvDjBsHlaB62Br52m17t4BslC130DqjcjcCm9oE7Ck1C6112021231b10161C01327161r13141",
       "0361Kj2J32RhBn3Bi71d16BDku65I5BtEiBca62941K0tiBb4950Ogr49Gmt2a40G0u1211162491H0613111e",
       "1G428BgC3704941YhC3CcBsG231q1110201913101060401010121110201010101011102316131310191g52",
       "141gBk1IeBb4D3ce2e1e1B4aFdBosdBb4871e5Eq<o3g3c3Gp6b40fb4Bn896B78t2b41e8B7Kn8d2c3a3Bo10",
       "4f2b497Ei1D6BA5BJWvB0EIt2FUd2HJgfTdCN2QtBP2E+a5IJ9"]),
    ("Grapheme_Extend",
      ["Y0DfIj6I7Bc10111110C8aBgkg0D56252113B30uqCraBq890o3181214Bb2Br8Ban1vBn010474036a1t0Bq0",
       "10238090a1q021Bp041412230u130b1Bp0441140k1m510Bq011138072a1u0Br010c090B8030Bn012521371",
       "b1t0Bq02110321371b1s1Bp110238090a1t0C8040221080Ch026c7D2028b6C91r01010Bnd14115a1B390D6",
       "3151121p142g3d02160f0Vv2:i3s2t1u1C0116802a90Bd210Dl1B20Dm2419062Gr120Bq0161010276920Bg",
       "Bd2bk3Bg942B68c1B0325Bo0113014Bo721Eo21c16406031G6BvQc0G3B0C>u2Ed0D0vRa5D91:Ok319B01Cg",
       "1Ig03040p150En1qhd0B67pa10Bc2Bg0232120B40C352121c080Bf0Bj012215110Ba180He02040TZg0X1fg",
       "fLe1St0H20El4BU621153B8240F51Rt3C14Jt1Cd5C6aBh3Dr0BmeB9021a2Bh32170Bt2B4417Bu0c1Bk8108",
       "320Cv2236020Et037l1Bp11010c090e634C30251020124210e1Cl72210n0Ch02510201111Hb0236111r1Cl",
       "72011Da01027D50102314I3811Hl0a340Eg32140B09B8523809522Bec11G601210G961510Cil261111Dq53",
       "0111610C813010Kr1b1Bk452n0FH506eLG8b32CO04Br6BAo0Bv3Ch0b1TFb1ET1Bd2mQu4358726u3Ek2B:rB",
       "m4Bh80e0m41eBKg61g261114D40F06Ln0Bt3Ps3Hu1Hj0207150Oq6Dd6YFWlCvE0Hf"]),
    ("Hex_Digit",
      ["Bg975q5B>V9975q5"]),
    ("IDS_Binary_Operator",
      ["L>g129Ph0"]),
    ("IDS_Trinary_Operator",
      ["L>i1"]),
    ("ID_Continue",
      ["Bg97p401pBf0a010205m1u1O94be47010hDk11231064101j1Ci1Ea142F51B5206B88Bc101111108q43ta5C",
       "94D517291i20gBq2D4eBl40202Bdir4a5n167Ca1E0291i17212l1610332821238041142ba0102215412l16",
       "111111201441223073107fb218121l16111429121220f329961217212l1611142821227241142910g11532",
       "1331101131323b4432132060e9gc121m1f2812137112112329g317121m19142812137152132912cc121Bi1",
       "214537429a5121h3n181026304510176921dBp5e19B7110141n101m2410161923B00n169b01010491B34j1",
       "h1B390BpC96Cd2B510502Ba1Kc132610132B8132B0132610132e1Bo132C22298efgCl253Tb2g1p5Ca3a7l9",
       "lbjcc1211cCj304129B121a6Co7Ba5C5au1b4baB724bBb4p6aB5r4Bu1s2a69d08d1u2bkCc39h8cDjcBn893",
       "Bg2a5Ba22g21B65Ql252B525271010101u2Bk1610321633254c5216f1Bh1j0s0d0gcBjc403bh0402910256",
       "010101f235440hB8CTnH468cB510502Bn70fn96161616161616161vQ52pe14244Cl261Cu5Ba1CthvBgfQ0G",
       "NvC0VUcC3Bd2Ic3rkBf491DiB582D62ChkBm40jBjcC5a96n301Bg2B3cs3C0ea6u1Bm9d296m3C8o22f24a52",
       "52596161Ba1d6Dq11296K:3cm4BgII4Ld2D9B66c45b1c141011111DbB1LaiBv2BlB8b4fgf31o2B041E6j97",
       "p401paCp35252522B3b1p1i111e2dB2DqC5BkE80E2s3Bgf0vvdt5Ba5t2B34714BaEt296B34B34B78Bjca1e",
       "16111a1e16113BjcJm9la7o51B918C55201Bb11302mam9uC1i11alap6pB6Bn61C031157121s2240B0s3sB3",
       "71tpBlalaidhDeC8BnBidBidB7896B5341mHqB91131g5BiB2a08B0vlBakrm9C6vf9Br70do796Bk19438B32",
       "09C4431c10B3h1B463Bu610131e197Bq596317212l1611141921222060562634b910201B51910201317d1t",
       "Ca5943uC51089F6Bl28n5B2C030b9B6Bo796jsq2e4966FpBqD5C9l72027111t1128c9C672Bd2711rBu808C",
       "930iC8D77CoB0f9681Bc18f9ot2l1dC96111Bb3011188965111B41115796Bb49Hmm9g1B834daCl0Cf*pD6D",
       "ehG3CScD0fBBfglaD*q5S6GVpBpBW6Ro7u196Ce196t24bBm93c99k5iNgBc39G6BvB0o2oBcCa4Bo7gC0111b",
       "69HGlB9vD1DiIPt316111J2f0t220e38MbCI4Da5c387931ECh9Q6Bd2mQu4358726u3Ek2NrCk1C611202123",
       "1b10161C01327161r131410361Kj2o1o1u1o1u1o1u1o1u1o172BhQ0Bm4Bh80e0m41eBCgu65Gl61g2611145",
       "BtB10DgBc3d2940K1uhBpOmB9GmBaG5u1l81H0613111e1G4b6B9Cb49BF631q111020191310106040101012",
       "1110201010101011102316131310191g52141gDJk9BA6BJWvB0EIt2FUd2HJgfTdCN2QtBP2E+a5IJ9VTE6Hf"]),
    ("ID_Start",
      ["C1p6pBf0a0405m1u1O94be47010E141123106012101j1Ci1Ea8F51B5206B8C7q43BdBaB311D210f171a220",
       "g01ttCob0oB091405l409030no7a5n16gB9BqBl30i079ff47212l16103330g0d112e1a085412l16111111v",
       "310j2g8121l16111430i0f1n0b7212l16111430u112f0h015321331101131323bm0Bk7121m1f30q21121u0",
       "47121m191430u211f1h8121B820g05282o55h3n181026BqBf11c6Bq110141n101911902410l3B00Bv71B3r",
       "4DjBak0g5433031724cc0hB510502Ba1Kc132610132B8132B0132610132e1Bo132C2B5fgCl253Tb2g1p5Ca",
       "3a7hdiehec12fBjB3040C3Co7B8105C5auBht24bBb4pBmm9BkCi0CtBeh7Bmtd1aBbqB3B92aB32a5Ba22B93",
       "1511305FvC0Il252B525271010101u2Bk1610321633254c5216Dk0d0gcD50402910256010101f235440hB8",
       "CTnH46331cB510502Bn70gm9616161616161616R62p874244Cl441Cp135Ba1CthvBgfQ0GNvC0VUcC3Bd2Ic",
       "3fa1kBegu2CfB782D62Chkg12131mtBjeBhBu53011bramps7Bes0g419a41B8n217km303Bh1031242010o22",
       "a72c5252596161Ba1d6DitK:3cm4BgII4Ld2D9B66c450191c141011111DbB1LaiBv2BlB8bDk41E6B4p6pbC",
       "o35252522B3b1p1i111e2dB2DqC5BkIbs3BgBfvdt5B5at2B34714BaEtiB34B34B78Bjca1e16111a1e16113",
       "BjcJm9la7o51B918C55201Bb11302mam9uC1i11alap6pB6Bn61C00f3121sBas3sB371rrBlalaidhDeC8BnB",
       "idBidB3B6r9mHqB961g5Bosa08lBahBekrmcBkBp120dBcB0oqB3t0208B230cBfe3l010B3h1oj1Bv610131e",
       "197BeB67212l16111430i0c4u910201B510p010BcBki3k2uBfk110FoBeB93B4Bfk0BrBad0C7qB56FpBbDkB",
       "vv72027111nf010Cu72B6g010s0aB770l0bBdj0iC8G7B0v81B4h0BhtDg6111B5l0p5111ve0nBbI4if01c1B",
       "1Ds0Cf*pD6DehG3CScD0fBBfh5pD*q5S6GVptBX2Ro7uhCehtiBfg3vk5iNgBcGjBvB0o2oBcCa50C2cC0110e",
       "49HGlB9vD1DiIPt316111J2f0t220e38MbCI4Da5c3879F=6Ck1C6112021231b10161C01327161r13141036",
       "1Kj2o1o1u1o1u1o1u1o1u1o17BZku65I5BtEiBca6g0K1tiBbP4rH4t20Gfu1211162491H0613111e1G4BrC3",
       "70BFk31q1110201913101060401010121110201010101011102316131310191g52141gEK4BJWvB0EIt2FUd",
       "2HJgfTdCN2QtBP2E+a5IJ9"]),
    ("Ideographic",
      ["MA61p8e2<5GNvC0UPvWI0Ld2D9:Ia0d49HGlB9vD1DiI=tMbTI4BJWvB0EIt2FUd2HJgfTdCN2QtBP2E+a5IJ9"]),
    ("Join_Control",
      ["IAc1"]),
    ("Logical_Order_Exception",
      ["DS04Dr4CXg220BEHq12011"]),
    ("Lowercase",
      ["D1pBf0a040B4n1710101010101010101010101010101010101010101010101010101011101010101010101",
       "11010101010101010101010101010101010101010101010201012201020314020322020101020111020301",
       "02122602020101010101010101110101010101010101120103010101010101010101010101010101010101",
       "01010101010101010101016202110401010101C42B271u4D00Bb0103023i0rB21132101010101010101010",
       "101014102021BjBf1010101010101010101010101010101010901010101010101010101010101010101010",
       "10101010101010101020101010101011101010101010101010101010101010101010101010101010101010",
       "101010101010101010101010101010101010101010BgB8C+7Ba13Xo5CE2810DlFvC1010101010101010101",
       "01010101010101010101010101010101010101010101010101010101010101010101010101010101010101",
       "01010101010101010101010101010101010101010101810101010101010101010101010101010101010101",
       "01010101010101010101010101010101010101010101010101010101885a78785a7878d278787841160321",
       "1832187a211Dp0d0gcDd03130r04040218340B1f40+bpB+6Bf103110101040111730101010101010101010",
       "10101010101010101010101010101010101010101010101010101010101010101010101010101011701040",
       "cB51050<Ij010101010101010101010101010101010101010101010j010101010101010101010101012E50",
       "10101010101210101010101010101010101010101010101010101010101010101010101019101020101010",
       "10401020121010101010101010101050501010101010101040102010101010101010l31012ZlBa1d6CfT+0",
       "6c4BB9pBGdB7E8B3Era1e1611O30221B918BI5BiDtlCZqvVM0vBroZK6pq61hqpq310161aqpqpqpqpqpqpqp",
       "qpqrso15qo15qo15qo15qo1510BZk91j65I5BtCFkB1"]),
    ("Math",
      ["Bb0g2v0t010Bd040B50v0Wo220q122Qf2GQd0r2b030d0e3l4b4C1c403144i04029102560312112153d10C4",
       "n1511414v1061eIb83k1Cq0uq10o0b6Nt1c945412134e01025b751Bp010t392KgBvI0PvBgk25BT<s0Zn510",
       "F20g2t010t010E3063DN11BQL00BIfCk1C6112021231b10161C01327161r131410361Kj2J32BhFQ031q111",
       "0201913101060401010121110201010101011102316131310191g52141gBk1COu8"]),
    ("Noncharacter_Code_Point",
      ["B>OgvQe1B>>u1B>>u1B>>u1B>>u1B>>u1B>>u1B>>u1B>>u1B>>u1B>>u1B>>u1B>>u1B>>u1B>>u1B>>u1B>>",
       "u1"]),
    ("Pattern_Syntax",
      ["B1ea6q310q3B2610111011404030n0v0HYon8e2i19JhWfF0TluBDbQ0DvM124of0BTId1I51"]),
    ("Pattern_White_Space",
      ["94i0D40H*81o1"]),
    ("Quotation_Mark",
      ["B2040E30f0H+s7p1DQ70O93d2BTR13Ft040Cq1"]),
    ("Radical",
      ["LU0p1CocGl"]),
    ("Regional_Indicator",
      ["D*P6p"]),
    ("Sentence_Terminal",
      ["B10c0g0BK90Ej2Fk0Bb2Hm0Bt01031J51BX41Ym041Y50G61Et1Bd050Jq1L23F21a121t2Fr1C11:40n192DF",
       "f2Ji0d0m1Nd0:Hs0Ie1H3030Lu1Cm1Cv0Eo1Ej2Eg1Hp0UR6021Br031F90c0g0C10CXk1BHt4Bc3Ft1Dl3Dv2",
       "E1160g1Co111Dc0Ja1Dl1Ll15eD91Hp2Q5010Hr1Cn1N41Vk1Ca1SZ91E50C11b0R91J80TQ60HP80"]),
    ("Soft_Dotted",
      ["D91G40Ip0u0Bk0k0K00D2010GI90Bj0d030E40Et0N50Gm1CZi0DJ:51Bi1Bi1Bi1Bi1Bi1Bi1Bi1Bi1Bi1Bi1",
       "Bi1Bi1CE60Jh1q0"]),
    ("Terminal_Punctuation",
      ["B10a010b130Zu080Q10Bp0C80e012Fk0Bba10Hb1Bm517v0I51BHk1Fc045Jn1Yl7Y50Ds2C71Et230B7321Jq",
       "1L23F21a112t2Fr4Bu1:40n192DFf2Ji0d040a01131Nc1:Hr1Id2H34Lu1Cm1Cv0En2Ej2Dv0g1Hp0UR6021B",
       "p213F90a010b130C1020BBq0Bg0BE60G70Jm1Eo5C45Cp3:o4Bc3Ft6Dg3Dv2E1160g1Co4Dc0Ja1Dl2c1L633",
       "eD91Hp2Q5010Hr1Cn141Mu2Bd0U51Ca1BJb4RPp1E50C12a0R91J71TQ60HP73"]),
    ("Unified_Ideograph",
      ["NA0GNvC0UPvWQe11011a0101122CBOmBJWvB0EIt2FUd2HJgfTdEN2E+a5IJ9"]),
    ("Uppercase",
      ["C1pD5m16B10101010101010101010101010101010101010101010101010101010201010101010101020101",
       "01010101010101010101010101010101010101010111010311011122311123111101011102011121011307",
       "02020201010101010101020101010101010101020201210101010101010101010101010101010101010101",
       "010101010101010107111201310101010J10103080601210111g18B3022301010101010101010101010502",
       "0112BiBg010101010101010101010101010101010901010101010101010101010101010101010101010101",
       "01010101011101010101010201010101010101010101010101010101010101010101010101010101010101",
       "0101010101010101010101010101010102B5C+9B51050WiClCEj06Ba22K001010101010101010101010101",
       "01010101010101010101010101010101010101010101010101010101010101010101010101010101010101",
       "01010101010101010101010101010101010109010101010101010101010101010101010101010101010101",
       "01010101010101010101010101010101010101010101010109785a78785b010101087C83c3c3c4b3I60403",
       "22220346010101323a150qfj0ZipBZgBfBg012201010131020821010101010101010101010101010101010",
       "1010101010101010101010101010101010101010101010101010101010101010801040<Kd0101010101010",
       "10101010101010101010101010101010j010101010101010101010101010E7010101010101030101010101",
       "010101010101010101010101010101010101010101010101010a0101110101010401020103010101010101",
       "01010101414101010101010101310111010101010101010o0VZbpBG5B7E8B3Esa1e1611BXaBiEtlCZqvVM0",
       "vC0oZK7pqpqpq01120212317qpq1132716r113141036rpqpqpqpqpqpuoB1oB1oB1oB1oB10EJlB1CAep6p6p"]),
    ("Variation_Selector",
      ["GAb210BZPgf+AXgHf"]),
    ("White_Space",
      ["94i0D40q0FOv0CLvat150Bf0D:00"]),
    ("XID_Continue",
      ["Bg97p401pBf0a010205m1u1O94be47010hDk11321064101j1Ci1Ea142F51B5206B88Bc101111108q43ta5C",
       "94D517291i20gBq2D4eBl40202Bdir4a5n167Ca1E0291i17212l1610332821238041142ba0102215412l16",
       "111111201441223073107fb218121l16111429121220f329961217212l1611142821227241142910g11532",
       "1331101131323b4432132060e9gc121m1f2812137112112329g317121m19142812137152132912cc121Bi1",
       "214537429a5121h3n181026304510176921dBp5e19B7110141n101m2410161923B00n169b01010491B34j1",
       "h1B390BpC96Cd2B510502Ba1Kc132610132B8132B0132610132e1Bo132C22298efgCl253Tb2g1p5Ca3a7l9",
       "lbjcc1211cCj304129B121a6Co7Ba5C5au1b4baB724bBb4p6aB5r4Bu1s2a69d08d1u2bkCc39h8cDjcBn893",
       "Bg2a5Ba22g21B65Ql252B525271010101u2Bk1610321633254c5216f1Bh1j0s0d0gcBjc403bh0402910256",
       "010101f235440hB8CTnH468cB510502Bn70fn96161616161616161vQ52pe14244Cl21221Cu5Ba1CthvBgfQ",
       "0GNvC0VUcC3Bd2Ic3rkBf491DiB582D62ChkBm40jBjcC5a96n301Bg2B3cs3C0ea6u1Bm9d296m3C8o22f24a",
       "5252596161Ba1d6Dq11296K:3cm4BgII4Ld2D9B66c45b1c141011111DbB1Ea6GpiBv2BlB896fgf31o2B101",
       "0301010101Dtj97p401paCp35252522B3b1p1i111e2dB2DqC5BkE80E2s3Bgf0vvdt5Ba5t2B34714BaEt296",
       "B34B34B78Bjca1e16111a1e16113BjcJm9la7o51B918C55201Bb11302mam9uC1i11alap6pB6Bn61C031157",
       "121s2240B0s3sB371tpBlalaidhDeC8BnBidBidB7896B5341mHqB91131g5BiB2a08B0vlBakrm9C6vf9Br70",
       "do796Bk19438B3209C4431c10B3h1B463Bu610131e197Bq596317212l1611141921222060562634b910201",
       "B51910201317d1tCa5943uC51089F6Bl28n5B2C030b9B6Bo796jsq2e4966FpBqD5C9l72027111t1128c9C6",
       "72Bd2711rBu808C930iC8D77CoB0f9681Bc18f9ot2l1dC96111Bb3011188965111B41115796Bb49Hmm9g1B",
       "834daCl0Cf*pD6DehG3CScD0fBBfglaD*q5S6GVpBpBW6Ro7u196Ce196t24bBm93c99k5iNgBc39G6BvB0o2o",
       "BcCa4Bo7gC0111b69HGlB9vD1DiIPt316111J2f0t220e38MbCI4Da5c387931ECh9Q6Bd2mQu4358726u3Ek2",
       "NrCk1C6112021231b10161C01327161r131410361Kj2o1o1u1o1u1o1u1o1u1o172BhQ0Bm4Bh80e0m41eBCg",
       "u65Gl61g2611145BtB10DgBc3d2940K1uhBpOmB9GmBaG5u1l81H0613111e1G4b6B9Cb49BF631q111020191",
       "3101060401010121110201010101011102316131310191g52141gDJk9BA6BJWvB0EIt2FUd2HJgfTdCN2QtB",
       "P2E+a5IJ9VTE6Hf"]),
    ("XID_Start",
      ["C1p6pBf0a0405m1u1O94be47010E141132106012101j1Ci1Ea8F51B5206B8C7q43BdBaB311D210f171a220",
       "g01ttCob0oB091405l409030no7a5n16gB9BqBl30i079ff47212l16103330g0d112e1a085412l16111111v",
       "310j2g8121l16111430i0f1n0b7212l16111430u112f0h015321331101131323bm0Bk7121m1f30q21121u0",
       "47121m191430u211f1h8121B820g05282o55h3n181026BqBf10d6Bq110141n101910a02410l3B00Bv71B3r",
       "4DjBak0g5433031724cc0hB510502Ba1Kc132610132B8132B0132610132e1Bo132C2B5fgCl253Tb2g1p5Ca",
       "3a7hdiehec12fBjB3040C3Co7B8105C5auBht24bBb4pBmm9BkCi0CtBeh7Bmtd1aBbqB3B92aB32a5Ba22B93",
       "1511305FvC0Il252B525271010101u2Bk1610321633254c5216Dk0d0gcD50402910256010101f235440hB8",
       "CTnH46331cB510502Bn70gm9616161616161616R62p874244Cl621Cp135Ba1CthvBgfQ0GNvC0VUcC3Bd2Ic",
       "3fa1kBegu2CfB782D62Chkg12131mtBjeBhBu53011bramps7Bes0g419a41B8n217km303Bh1031242010o22",
       "a72c5252596161Ba1d6DitK:3cm4BgII4Ld2D9B66c450191c141011111DbB1Ea6GpiBv2BlB89Dn01030101",
       "0101DtB4p6pbBn2u35252522B3b1p1i111e2dB2DqC5BkIbs3BgBfvdt5B5at2B34714BaEtiB34B34B78Bjca",
       "1e16111a1e16113BjcJm9la7o51B918C55201Bb11302mam9uC1i11alap6pB6Bn61C00f3121sBas3sB371rr",
       "BlalaidhDeC8BnBidBidB3B6r9mHqB961g5Bosa08lBahBekrmcBkBp120dBcB0oqB3t0208B230cBfe3l010B",
       "3h1oj1Bv610131e197BeB67212l16111430i0c4u910201B510p010BcBki3k2uBfk110FoBeB93B4Bfk0BrBa",
       "d0C7qB56FpBbDkBvv72027111nf010Cu72B6g010s0aB770l0bBdj0iC8G7B0v81B4h0BhtDg6111B5l0p5111",
       "ve0nBbI4if01c1B1Ds0Cf*pD6DehG3CScD0fBBfh5pD*q5S6GVptBX2Ro7uhCehtiBfg3vk5iNgBcGjBvB0o2o",
       "BcCa50C2cC0110e49HGlB9vD1DiIPt316111J2f0t220e38MbCI4Da5c3879F=6Ck1C6112021231b10161C01",
       "327161r131410361Kj2o1o1u1o1u1o1u1o1u1o17BZku65I5BtEiBca6g0K1tiBbP4rH4t20Gfu1211162491H",
       "0613111e1G4BrC370BFk31q1110201913101060401010121110201010101011102316131310191g52141gE",
       "K4BJWvB0EIt2FUd2HJgfTdCN2QtBP2E+a5IJ9"])
  ]

/-- The names of properties, in lower case without separators, and the property each stands for. -/
def propertyNames : List (String × String) :=
  [
    ("ahex", "ASCII_Hex_Digit"), ("alpha", "Alphabetic"), ("alphabetic", "Alphabetic"),
    ("asciihexdigit", "ASCII_Hex_Digit"), ("bidic", "Bidi_Control"),
    ("bidicontrol", "Bidi_Control"), ("bidim", "Bidi_Mirrored"),
    ("bidimirrored", "Bidi_Mirrored"), ("cased", "Cased"), ("caseignorable", "Case_Ignorable"),
    ("changeswhencasefolded", "Changes_When_Casefolded"),
    ("changeswhencasemapped", "Changes_When_Casemapped"),
    ("changeswhenlowercased", "Changes_When_Lowercased"),
    ("changeswhennfkccasefolded", "Changes_When_NFKC_Casefolded"),
    ("changeswhentitlecased", "Changes_When_Titlecased"),
    ("changeswhenuppercased", "Changes_When_Uppercased"), ("ci", "Case_Ignorable"),
    ("cwcf", "Changes_When_Casefolded"), ("cwcm", "Changes_When_Casemapped"),
    ("cwkcf", "Changes_When_NFKC_Casefolded"), ("cwl", "Changes_When_Lowercased"),
    ("cwt", "Changes_When_Titlecased"), ("cwu", "Changes_When_Uppercased"), ("dash", "Dash"),
    ("defaultignorablecodepoint", "Default_Ignorable_Code_Point"), ("dep", "Deprecated"),
    ("deprecated", "Deprecated"), ("di", "Default_Ignorable_Code_Point"), ("dia", "Diacritic"),
    ("diacritic", "Diacritic"), ("ebase", "Emoji_Modifier_Base"), ("ecomp", "Emoji_Component"),
    ("emod", "Emoji_Modifier"), ("emoji", "Emoji"), ("emojicomponent", "Emoji_Component"),
    ("emojimodifier", "Emoji_Modifier"), ("emojimodifierbase", "Emoji_Modifier_Base"),
    ("emojipresentation", "Emoji_Presentation"), ("epres", "Emoji_Presentation"),
    ("ext", "Extender"), ("extendedpictographic", "Extended_Pictographic"),
    ("extender", "Extender"), ("extpict", "Extended_Pictographic"),
    ("graphemebase", "Grapheme_Base"), ("graphemeextend", "Grapheme_Extend"),
    ("grbase", "Grapheme_Base"), ("grext", "Grapheme_Extend"), ("hex", "Hex_Digit"),
    ("hexdigit", "Hex_Digit"), ("idc", "ID_Continue"), ("idcontinue", "ID_Continue"),
    ("ideo", "Ideographic"), ("ideographic", "Ideographic"), ("ids", "ID_Start"),
    ("idsb", "IDS_Binary_Operator"), ("idsbinaryoperator", "IDS_Binary_Operator"),
    ("idst", "IDS_Trinary_Operator"), ("idstart", "ID_Start"),
    ("idstrinaryoperator", "IDS_Trinary_Operator"), ("joinc", "Join_Control"),
    ("joincontrol", "Join_Control"), ("loe", "Logical_Order_Exception"),
    ("logicalorderexception", "Logical_Order_Exception"), ("lower", "Lowercase"),
    ("lowercase", "Lowercase"), ("math", "Math"), ("nchar", "Noncharacter_Code_Point"),
    ("noncharactercodepoint", "Noncharacter_Code_Point"), ("patsyn", "Pattern_Syntax"),
    ("patternsyntax", "Pattern_Syntax"), ("patternwhitespace", "Pattern_White_Space"),
    ("patws", "Pattern_White_Space"), ("qmark", "Quotation_Mark"),
    ("quotationmark", "Quotation_Mark"), ("radical", "Radical"),
    ("regionalindicator", "Regional_Indicator"), ("ri", "Regional_Indicator"),
    ("sd", "Soft_Dotted"), ("sentenceterminal", "Sentence_Terminal"),
    ("softdotted", "Soft_Dotted"), ("space", "White_Space"), ("sterm", "Sentence_Terminal"),
    ("term", "Terminal_Punctuation"), ("terminalpunctuation", "Terminal_Punctuation"),
    ("uideo", "Unified_Ideograph"), ("unifiedideograph", "Unified_Ideograph"),
    ("upper", "Uppercase"), ("uppercase", "Uppercase"),
    ("variationselector", "Variation_Selector"), ("vs", "Variation_Selector"),
    ("whitespace", "White_Space"), ("wspace", "White_Space"), ("xidc", "XID_Continue"),
    ("xidcontinue", "XID_Continue"), ("xids", "XID_Start"), ("xidstart", "XID_Start")
  ]

end Unicode

end Intake
