/-!
# General categories

The sets of characters of each general category. Characters of no category listed here are
unassigned. Each set is written as pairs of
numbers: the gap after the range before, and the length of the range less one. A number is in base
32; its last digit is one of `0`-`9` and `a`-`v`, the digits before it are `A`-`Z` and six signs.
-/

namespace Intake

namespace Unicode

/-- The characters of each category, under its short name. -/
def categoryTable : List (String × List String) :=
  [
    ("Lu",
      ["C1pD5m16B10101010101010101010101010101010101010101010101010101010201010101010101020101",
       "01010101010101010101010101010101010101010111010311011122311123111101011102011121011307",
       "02020201010101010101020101010101010101020201210101010101010101010101010101010101010101",
       "010101010101010107111201310101010J10103080601210111g18B3022301010101010101010101010502",
       "0112BiBg010101010101010101010101010101010901010101010101010101010101010101010101010101",
       "01010101011101010101010201010101010101010101010101010101010101010101010101010101010101",
       "0101010101010101010101010101010102B5C+9B51050WiClCEj06Ba22K001010101010101010101010101",
       "01010101010101010101010101010101010101010101010101010101010101010101010101010101010101",
       "01010101010101010101010101010101010109010101010101010101010101010101010101010101010101",
       "01010101010101010101010101010101010101010101010109785a78785b010101087C83c3c3c4b3I60403",
       "22220346010101323a150Bt0CTsBfBg0122010101310208210101010101010101010101010101010101010",
       "101010101010101010101010101010101010101010101010101010101010801040<Kd01010101010101010",
       "1010101010101010101010101010j010101010101010101010101010E70101010101010301010101010101",
       "01010101010101010101010101010101010101010101010a01011101010104010201030101010101010101",
       "0101414101010101010101310111010101010101010o0VZbpBG5B7E8B3Esa1e1611BXaBiEtlCZqvVM0vC0o",
       "ZK7pqpqpq01120212317qpq1132716r113141036rpqpqpqpqpqpuoB1oB1oB1oB1oB10EJlB1"]),
    ("Ll",
      ["D1pBq0B9n17101010101010101010101010101010101010101010101010101010111010101010101011101",
       "01010101010101010101010101010101010101010102010122010203140203220201010201110203010212",
       "26020201010101010101011101010101010101011201030101010101010101010101010101010101010101",
       "0101010101010101016202110401010101C42pG10103032i0rB21132101010101010101010101014102021",
       "BjBf1010101010101010101010101010101010901010101010101010101010101010101010101010101010",
       "10101020101010101011101010101010101010101010101010101010101010101010101010101010101010",
       "101010101010101010101010101010BgB8C+7Ba22Xo5CE2810DlBbBvc1B1D6010101010101010101010101",
       "01010101010101010101010101010101010101010101010101010101010101010101010101010101010101",
       "01010101010101010101010101010101010101810101010101010101010101010101010101010101010101",
       "01010101010101010101010101010101010101010101010101885a78785a7878d278787841160321183218",
       "7a211Ii03130r04040218340Bl0CVbBf103110101040111550101010101010101010101010101010101010",
       "10101010101010101010101010101010101010101010101010101010101011701040cB51050<Ij01010101",
       "0101010101010101010101010101010101010j010101010101010101010101010E70101010101012101010",
       "10101010101010101010101010101010101010101010101010101010171010201010101040102012101010",
       "1010101010101050501010101010101040102010101010101010q030ZlBa587CfT+06c4BB9pBGdB7E8B3Er",
       "a1e1611BY3BiDtlCZqvVM0vBroZK6pq61hqpq310161aqpqpqpqpqpqpqpqpqrso15qo15qo15qo15qo1510BZ",
       "k91j65CPnB1"]),
    ("Lt",
      ["O502020B60HMl78787c0f0Bf0"]),
    ("Lm",
      ["Vgh4be47010E5050Ou0H60F41Id140v09030F00F70BGk0Dv0Rl0BWq0Db0T30Og5FeBud0B2B4Vh0d0gcC<v1",
       "Hh0Fv0Ol0Bb450D11Ct2=Ym0BH25Ie0Di0s1Dp8Cg0n0D8331Ol0m0E90Dc0l1D7390VA60Bd1B>051B918BMj",
       "0B00Kl0DYj0TL63Ps2B81R6cC0110e1P>s31611MBhBtG96:d0Qj0Sb0"]),
    ("Lo",
      ["Fa0f0I0043Gg1Zqq43Bdv19B311D210o1a220g01ttCob0oB0llBao7a5n16gB8BrBl30i079ge47212l16103",
       "330g0d112e1a085412l16111111v310j2g8121l16111430i0f1n0b7212l16111430u112f0h015321331101",
       "131323bm0Bk7121m1f30q21121u047121m191430u211f1h8121B820g05282o55h3n181026BqBf11c5Br110",
       "141n1019119024n3B00Bv71B3r4DjBak0g5433031724cc0DhK8132610132B8132B0132610132e1Bo132C2B",
       "5fDhTb2g1p5Ca677hdiehec12fBjB80C3B21Bk742B1105C5auBht24bBb4pBmm9BkFgBeh7Bmtd1aBbqB3B92",
       "atDh3151130BBq3C>nBnom9616161616161616R70Bl04Cl801Cp405Ba1CthvBgfQ0GNvC0UQk1BDmC3B78Ib",
       "4fa1C20BhC5F90D703612131mtBjeBhBu53011bramps7BeBd428a41B8n217kf15303Bh1031242010o13a70",
       "e525259616EhB2tK:3cm4BgII4Ld2D9C30191c141011111DbB1LaiBv2BlB8bDk41E6D991Bc2u35252522B3",
       "b1p1i111e2dB2DqM5s3BgBfvdj176B5at2B347E0CdD2B78BjCsBjcJm9la7Eo5201Bb11302mam9uC1i11ala",
       "p6pB6Bn61C00f3121sBas3sB371rrBlalaidhDeC8FnB3B6310JgB961g211Bosa08lBahBekrmcBkBp120dBc",
       "B0oqB3t0208B230cBfe3l010B3h1oj1Bv610131e197BeB67212l16111430i0c4u910201B510p010BcBki3k",
       "2uBfk110FoBeB93B4Bfk0BrBad0C7qB56FpBbGj72027111nf010Cu72B6g010s0aB770l0bBdj0iC8G7B0v81",
       "B4h0BhtDg6111B5l0p5111ve0nB811I4if01c1B1Ds0Cf*pH6G3CScD0fBBfh5pD*q5S6GVptBX2Ro7uhCehti",
       "BfBjk5iNjB7MlCa50FfHGlB9vD1DiIQdJ2f0t220e38MbCI4Da5c3879ITg0PlBcB10K1tiBbP4qH5t20Gfu12",
       "11162490H1613111e1G4BJr31q1110201913101060401010121110201010101011102316131310191g5214",
       "1gEK4BJWvB0EIt2FUd2HJgfTdCN2QtBP2E+a5IJ9"]),
    ("Mn",
      ["Y0DfIj4I9Bc10111110C8aBgkg0D56252113B30uqCraBq890o3181214Bb2Br8Ban1vBn010474036a1t0Bq0",
       "4380k1q021Bp041412230u130b1Bp0441140k1m510Bq020138071b1u0Bt0c0Bi030Bn012521371b1t0Bq02",
       "06051k1s1Bp14380k1t0C807210Cq026c7D2028b6C91r01010Bnd14115a1B390D63151121p142g3d02160f",
       "0Vv2:i2t1u1u1C0116802a90Bd210Dl1B20Dm2419062Gr120Bq0161010276920Bgd1u2bk3Bg0141050B88c",
       "1B032112Bo0113012Bq721Eo21c16406031G6BvWgc403bC>u2Ed0D0vRa3Db1:Ok049B01Cg1Ig03040p150E",
       "n1qhd0B67paBe2Bg02321B70C352121c080Bf0Bj012215110Ba180He02040TZg0X1fgf<d0H20El4BU62115",
       "3B8240F51Rt3C14Jt1Cd5C6aBh3Dr0BmeB9021a2Bh32170Bt2B4417Bu0c1Bk8a320Cv220116020Et037l1B",
       "p130B5634C65d01010e1Cl72210n0Ck5104111He36111r1Cl72011Da0102510D50102314I3811I011040Eg",
       "32140B09B8523809522Bec11G601210G961510Cil261111Dq530111610C813010Kr1b1Bk45010n0FH506eL",
       "G8b32CO04Br6BAo0Bv3Ch0TFo1ET1Bd2mR02h726u3Ek2B:rBm4Bh80e0m41eBKg61g261114D40F06Ln0Bt3P",
       "s3Hu1Hj0207150Oq6Dd6YF:lHf"]),
    ("Mc",
      ["CI30Bn0228311Bi1Bq26121a0Bb0Bq2C20Bq28011Bl1Bq0106121a0D61113212a0B92Bt3Bt1Bq014211191",
       "s0e1Bq25212a0Ba1Cb267i1Ka1Bv0Fb1406021p1a226l12520a2BTo0u0E107711Kq3224115H01Bq0109011",
       "85Eh0Bg0501411Bt0u04120Bs0221031Bg781Fb0l0EZm1:>j120Co1BifEe1Bf0Bg14122De121o0Bd010Dd0",
       "2150Hd1111110ZAj010Dv0Bd241Dj0o1Br0Bg291d0Ct23110Fa2v1Bq113212290a1Ck27020131110D52813",
       "0Da2601320Hd26320Dh28110Dd01160D701140I5290Hn511402010Ee28340Ck0t1Bu0G903010G70e0Da070",
       "20Gl44110Ku1c0Bg18110QP82DR4BmD81YLj165"]),
    ("Me",
      ["BE81FRk0BQu312BBMb2"]),
    ("Nd",
      ["Bg9BR69E69G69Ms9Dm9Dm9Dm9Dm9Dm9Dm9Dm9Dm9Dm9D09Dm9C69Im9C69B+69B69Jc9E09F6969Fm9Cm9E696",
       "9BCO69V69B69G69m9Cm9Mm9UYm9BM69CE6969Ys9E09Bs9Eg9Im9Km9Dm9Lm9D696jCc9N69D69Um9Cm9Hm9C6",
       "9Bm9L69QOm9CJ69Cm9E69Qm9X=m9CWkBhCK09N69Pm9Hn9+l9EUm9"]),
    ("Nl",
      ["FXe2CTfB223DTu0p8e2:Vb9WSgBkOc080E64IBaDeS*52"]),
    ("No",
      ["Fi15022CJl5Lo5Do2E56Gp6h8Nh9BBljBDj9P00BUl03569G6fB90WmBrCelTmtBL90BEk3Ea9u71eB09B7e:L",
       "g5WGhBcC13h1KlqB43BJk7p6B78Cb4m5F012f2BdC08Bk1u2Cb4D87o7B96Ka5L0uEu9Ba3Dg6E6jLrjBK51Ne",
       "8=7i+jkS*66YumZB9jcjDcoFKe8:1Bq1213CcBc1e<2c"]),
    ("Pc",
      ["Cv0H<v1j0BXOu1o2Hf0"]),
    ("Pd",
      ["Bd0BKs0Bj0DS10BA50CA95DQ1020v140s0Nu0j0Df0BTMg1B50a0F90DT00Ju0"]),
    ("Ps",
      ["B80Bi0v0DVu010B+u0CLu030B60Bn0f0Tq010u0BBu0101010101010Cg0B0010101010Mk010101010101010",
       "101010C0010B10BB50101010p0i0101010Nc0101010103010101020BTJ10Gn0t01010101010101030h0101",
       "0Fa0Bi0v03020"]),
    ("Pe",
      ["B90Bj0v0DVt010B+u0CN90Bn0f0Tq010u0BBu0101010101010Cg0B0010101010Mk01010101010101010101",
       "0C0010B10BB50101010Bc0101010Nc0101010103010101021BTIu0Gp0t01010101010101030h01010Fa0Bj",
       "0v02020"]),
    ("Pi",
      ["Fb0H=c02120p0DO80104020f030"]),
    ("Pf",
      ["Fr0H+t030s0DO80104020f030"]),
    ("Po",
      ["B1212201011a131r0C4050e170Vu080Oi5B90Bm02020Bc1k111d012Ca3D60BbdH92Bmev0I51a0Ec0Do0Dp0",
       "M60c0Lf0Cq0a1F8e10Dg0Ca441Df5Fb0T48Y50Ds2C71Et212B5513Jp1Go1E0615F01a6s2Ds3Br4Bu1C07b0",
       "+21878823223a1019DEq311Dg0Ef1422028111021a41923101c22Nc2Bp0Ft0:A21Id2D30a0Dj5Ls3Cm1B82",
       "10Bh1Bf0D1cg1Ds3Du1g1Hp0UR4620m0k1233213726011El212201011a131r0B4021Mq2Us0Bg0Mu0X70G70",
       "v0Ig8B60Dg6C26Cp3Zj0E44Bc3Ft6Dd113Du3Bg1Cf340d012Co5Db0Ja111Di4a110D80HqmD92scCc0E22Hs",
       "0I82Er0Cs7Cj214Ct9Gn0Cv4Ba1U51CacFf0BDg4C=s1OTr1E50C1480R82J73K70TFs0HP74C=j0+u1"]),
    ("Sm",
      ["Bb0g2Bt010Bd040B50v0Xu0Qf2GRr0d0B72d2Eb0B7460C445140202070v12010vIbB01Cq0uoB85Ol090Bm7",
       "Df0Kg42uafI0E2mBu4v2I1Bgk25BT<s0Zo012F40g2Bt010E3063DN11BQL00B<g0p0v0p0v0p0v0p0v0p0FZc",
       "1COu8"]),
    ("Sc",
      ["B40Dt3BH90Dr0Pi1Pi170Hl0I70S50CMr0CG4B1BB=m0VO30Dc0Eq0Gr131H>m3BQYu0CNg0"]),
    ("Sk",
      ["Cu010C70604030Q93cd56101gDl0e1BI20FZk012b2d2d2d1EEs1:T3m91D71<g0e1UC6g=r010F20B:An4"]),
    ("So",
      ["F60204010<h0Ia1Dv1Ge0a0j1Hn0Q30Ll0E2510E40Gf0B90M72f01225k01010E57151153G51Xg9Wj0Wi0Et",
       "B1L1998BM311311a0116510101040b1e01110Bq194231111161u21101uIc74j262Cg1tpB76C7maChCdmFm1",
       "81Bl8De1HnBcBbC0HvQ0Bfl16B62E9H55L51Bep1CocGlqf40d1c0l161Kg149B0B590gubt80fvaB6fJvGO0B",
       "vVUgBm=13a110Rt2UK9fLdfC01Bm7Bd2P403041d1Jp8Bpg221c30BfBcBTq1Sf0BA87CD60CEl74gS+a350UK",
       "m0D=3Hfa23Nj6mffD0DjBsHlaB62Br52m17t4BslC130FqCmBF9PvBn3Bi71d11BW80C+s0E10WhBb4D3ce2e1",
       "e1B4nF0BosdBb4871e5EqHq5Wo3g3c3Gp6b40fb4Bn896B78t2b41BuKn8d2c3a3Bo104f2b497Ei1Cra0"]),
    ("Zs",
      ["B00Dv0FOv0CLvaB40Bf0D:00"]),
    ("Zl",
      ["IB80"]),
    ("Zp",
      ["IB90"]),
    ("Cc",
      ["0vCvB0"]),
    ("Cf",
      ["Fd0BKi5m0G00Bh0M01Cg0DZb0B>s4q4Bh419BXUf0Hp2EG10f0I=2fBCD03FGf7YLU60uCv"]),
    ("Co",
      ["BYA0GHv*BY0B>>t2B>>t"])
  ]

/-- The names of categories and groups of categories, in lower case without separators, and the
short name each stands for. -/
def categoryNames : List (String × String) :=
  [
    ("c", "C"), ("casedletter", "LC"), ("cc", "Cc"), ("cf", "Cf"), ("closepunctuation", "Pe"),
    ("cn", "Cn"), ("cntrl", "Cc"), ("co", "Co"), ("combiningmark", "M"),
    ("connectorpunctuation", "Pc"), ("control", "Cc"), ("currencysymbol", "Sc"),
    ("dashpunctuation", "Pd"), ("decimalnumber", "Nd"), ("digit", "Nd"), ("enclosingmark", "Me"),
    ("finalpunctuation", "Pf"), ("format", "Cf"), ("initialpunctuation", "Pi"), ("l", "L"),
    ("lc", "LC"), ("letter", "L"), ("letternumber", "Nl"), ("lineseparator", "Zl"), ("ll", "Ll"),
    ("lm", "Lm"), ("lo", "Lo"), ("lowercaseletter", "Ll"), ("lt", "Lt"), ("lu", "Lu"),
    ("m", "M"), ("mark", "M"), ("mathsymbol", "Sm"), ("mc", "Mc"), ("me", "Me"), ("mn", "Mn"),
    ("modifierletter", "Lm"), ("modifiersymbol", "Sk"), ("n", "N"), ("nd", "Nd"), ("nl", "Nl"),
    ("no", "No"), ("nonspacingmark", "Mn"), ("number", "N"), ("openpunctuation", "Ps"),
    ("other", "C"), ("otherletter", "Lo"), ("othernumber", "No"), ("otherpunctuation", "Po"),
    ("othersymbol", "So"), ("p", "P"), ("paragraphseparator", "Zp"), ("pc", "Pc"), ("pd", "Pd"),
    ("pe", "Pe"), ("pf", "Pf"), ("pi", "Pi"), ("po", "Po"), ("privateuse", "Co"), ("ps", "Ps"),
    ("punct", "P"), ("punctuation", "P"), ("s", "S"), ("sc", "Sc"), ("separator", "Z"),
    ("sk", "Sk"), ("sm", "Sm"), ("so", "So"), ("spaceseparator", "Zs"), ("spacingmark", "Mc"),
    ("symbol", "S"), ("titlecaseletter", "Lt"), ("unassigned", "Cn"), ("uppercaseletter", "Lu"),
    ("z", "Z"), ("zl", "Zl"), ("zp", "Zp"), ("zs", "Zs")
  ]

end Unicode

end Intake
