/-!
# Scripts

The sets of characters of each script. Each set is written as pairs of
numbers: the gap after the range before, and the length of the range less one. A number is in base
32; its last digit is one of `0`-`9` and `a`-`v`, the digits before it are `A`-`Z` and six signs.
-/

namespace Intake

namespace Unicode

/-- The characters of each script. -/
def scriptTable : List (String × List String) :=
  [
    ("Adlam",
      ["D+I0Cb4941"]),
    ("Ahom",
      ["CFY0q2e4m"]),
    ("Anatolian_Hieroglyphs",
      ["CRA0S6"]),
    ("Arabic",
      ["BQ04151d121v19bp1Db1B1CgBfHgB15Ca1sB*SgPd2EfB0fDg41E6D=3uC3588B15BXY031q11102019131010",
       "60401010121110201010101011102316131310191g52141gBk1"]),
    ("Armenian",
      ["BJhB52Bh22B:M34"]),
    ("Avestan",
      ["CCY0Bl36"]),
    ("Balinese",
      ["GY0Cc1Bh"]),
    ("Bamum",
      ["BJV0CnBQI8Ro"]),
    ("Bassa_Vah",
      ["C+Wgt25"]),
    ("Batak",
      ["G<0Bj83"]),
    ("Bengali",
      ["CM0317212l1610332821238041142o"]),
    ("Beria_Erfe",
      ["C=V0o2o"]),
    ("Bhaiksuki",
      ["CHA081Bc1das"]),
    ("Bopomofo",
      ["Xa1LQpBaDgv"]),
    ("Brahmi",
      ["CEA0Cd4B390"]),
    ("Braille",
      ["KA0Hv"]),
    ("Buginese",
      ["GQ0r21"]),
    ("Buhid",
      ["F+0j"]),
    ("Canadian_Aboriginal",
      ["FA0TvRgC5CANqf"]),
    ("Carian",
      ["CAV0Bg"]),
    ("Caucasian_Albanian",
      ["CBJgBjb0"]),
    ("Chakma",
      ["CEI0Bk1h"]),
    ("Cham",
      ["BKQ0Bm9d2923"]),
    ("Cherokee",
      ["E:0Cl25BF=iCf"]),
    ("Chorasmian",
      ["CD:gr"]),
    ("Common",
      ["0C0q5qBe1e14n0v0O1B6542jDk0906010Tt060e030B00Es0Q40E11BGp0Ml3J20BPf2C71Gb110BGd0d07315",
       "1220Y5b2Cm1a3a1ehB1BuB512251q1gB924Upmal*vI0Tj2E9Q0CtMik101of743Cr130Cq1EjfB0B590BgBvv",
       "CgBf0CoF7GO0BvWI0B1D62F59Hk0F00Mb0e1UOi1Gg9mB21i13Ej01vq5qaa0Bd1C0616a4I224Bc38CgcBjBc",
       "H4qBON43D+sHs3Nj6mfgCvDjBsHlaB62Bt3g817t4BsGljcjcCm9oE7Ck1C6112021231b10161C01327161r1",
       "31410361Kj2J32BhFDhC3CcBsW2Bb4D3ce2e1e1B4aFdBop11dBb4871e5Eq<o3g3c3Gp6b40fb4Bn896B78t2",
       "b41e8B7Kn8d2c3a3Bo104f2b497Ei1D6YBA60uCv"]),
    ("Coptic",
      [">2dKEgDj56"]),
    ("Cuneiform",
      ["CIA0*pD6De14bG3"]),
    ("Cypriot",
      ["CCA05201Bb113020"]),
    ("Cypro_Minoan",
      ["CL*gD2"]),
    ("Cyrillic",
      ["BA0E42F8F+gaF00Cc0ED7v<C0CvV*e1BYQ0BtB10"]),
    ("Deseret",
      ["CBA0Cf"]),
    ("Devanagari",
      ["CI0Cg4e2pBH=0v*Q09"]),
    ("Dives_Akuru",
      ["CGI062027111t112b99"]),
    ("Dogra",
      ["CGA0Br"]),
    ("Duployan",
      ["DPA0Da5c387923"]),
    ("Egyptian_Hieroglyphs",
      ["CMA0BClaD*q"]),
    ("Elbasan",
      ["CBI0B7"]),
    ("Elymaic",
      ["CD>0m"]),
    ("Ethiopic",
      ["EQ0C8132610132B8132B0132610132e1Bo132C22v3pGP6m9616161616161616>J2525259616CPFh613111e"]),
    ("Garay",
      ["CDK0B53s81"]),
    ("Georgian",
      ["EF0B510502Ba13C*gBa22EC0B51050"]),
    ("Glagolitic",
      ["LA0CvDM:061g261114"]),
    ("Gothic",
      ["CAZgq"]),
    ("Grantha",
      ["CEY0317212l1611142821222060562634"]),
    ("Greek",
      ["=g3122310401012101j1BuefGJ64Bi444Ck0K0l252B525271010101u2Bk1e1d251i2218J70BCRu0VOqCeh0",
       "BUCvC5"]),
    ("Gujarati",
      ["CU1218121l16111429121220f32b76"]),
    ("Gunjala_Gondi",
      ["CHL05111B4111579"]),
    ("Gurmukhi",
      ["CQ1215412l16111111201441223073107g"]),
    ("Gurung_Khema",
      ["CYI0Bp"]),
    ("Han",
      ["LU0p1CocGlBf010p8e3<4GNvC0UPvWI0Ld2D9:I81c6BEA9BJWvB0EIt2FUd2HJgfTdCN2QtBP2E+a5IJ9"]),
    ("Hangul",
      ["EI0HvHRe1I1CtDhuC1u:X1sU3K:3cm4BgJ:4u35252522"]),
    ("Hanifi_Rohingya",
      ["CDI0B789"]),
    ("Hanunoo",
      ["FZ0k"]),
    ("Hatran",
      ["CCH0i1154"]),
    ("Hebrew",
      ["BMhBm8q45B:J8p1410111119"]),
    ("Hiragana",
      ["MC1Cl62C>=1Iui0t2QFd0"]),
    ("Imperial_Aramaic",
      ["CCC0l18"]),
    ("Inherited",
      ["Y0DfIl1O4aq0X03EKrBd2bP421c16406031G6BvQc1G2B0DZp3Db1BTL5fgd<f0H20ECq0BO<4Bd2mR02h726u",
       "3YL+iHf"]),
    ("Inscriptional_Pahlavi",
      ["CC=0i57"]),
    ("Inscriptional_Parthian",
      ["CC+0l27"]),
    ("Javanese",
      ["BKM0Cd2941"]),
    ("Kaithi",
      ["CEE0C2a0"]),
    ("Kannada",
      ["DE0c121m19142812137152132912"]),
    ("Katakana",
      ["MF1Cp22HgfGgBe1CnBTAe91BcBMCi3161110Iv2Bi0e3"]),
    ("Kawi",
      ["CHY0g1B83s"]),
    ("Kayah_Li",
      ["BKI0Bd10"]),
    ("Kharoshthi",
      ["CCQ031157121s224978"]),
    ("Khitan_Small_Script",
      ["C=>40GYrOlB90"]),
    ("Khmer",
      ["F*0Ct2969P6v"]),
    ("Khojki",
      ["CEQ0h1Be"]),
    ("Khudawadi",
      ["CEVgBq59"]),
    ("Kirat_Rai",
      ["C=K0Bp"]),
    ("Lao",
      ["DU1110141n101m2410161923"]),
    ("Latin",
      ["C1p6pBf0f05m1u1O0B74GQrB56Bg535c1C5C1HvLh0d0gcEd160r0hB8CWnv<V2D53ChkeZgBa1813T*m6BAqp",
       "6pCB551B918BV+5u65"]),
    ("Lepcha",
      ["HA0Bn3e32"]),
    ("Limbu",
      ["GI0u1b4b403b"]),
    ("Linear_A",
      ["CBQ0Jm9la7"]),
    ("Linear_B",
      ["CAA0b1p1i111e2dB2Dq"]),
    ("Lisu",
      ["BJGgBf<Vg0"]),
    ("Lycian",
      ["CAU0s"]),
    ("Lydian",
      ["CCJ0p50"]),
    ("Mahajani",
      ["CEKgB6"]),
    ("Makasar",
      ["CHX0o"]),
    ("Malayalam",
      ["DI0c121Bi12154f2p"]),
    ("Mandaic",
      ["CC0r20"]),
    ("Manichaean",
      ["CCW0B64b"]),
    ("Marchen",
      ["CHDgv2l1d"]),
    ("Masaram_Gondi",
      ["CHI06111Bb30111889"]),
    ("Medefaidrin",
      ["C=S0Cq"]),
    ("Meetei_Mayek",
      ["BKX0mG9Bd29"]),
    ("Mende_Kikakui",
      ["D+A0G42f"]),
    ("Meroitic_Cursive",
      ["CCN0n4j2Bd"]),
    ("Meroitic_Hieroglyphs",
      ["CCM0v"]),
    ("Miao",
      ["C=Y0Ca4Bo7g"]),
    ("Modi",
      ["CFQ0C4b9"]),
    ("Mongolian",
      ["GA01201j6Co7BaB>Nlc"]),
    ("Mro",
      ["C+S0u1941"]),
    ("Multani",
      ["CEU0610131e1a"]),
    ("Myanmar",
      ["EA0EvBGK0uD1v=Cgj"]),
    ("Nabataean",
      ["CCE0u88"]),
    ("Nag_Mundari",
      ["DZGgB9"]),
    ("Nandinagari",
      ["CGN072Bd2a"]),
    ("New_Tai_Lue",
      ["GM0Bb4p6a31"]),
    ("Newa",
      ["CFA0Cr14"]),
    ("Nko",
      ["B<0Bq22"]),
    ("Nushu",
      ["C=>10QMeMb"]),
    ("Nyiakeng_Puachue_Hmong",
      ["DYI0Bc3d2941"]),
    ("Ogham",
      ["FU0s"]),
    ("Ol_Chiki",
      ["HCgBf"]),
    ("Ol_Onal",
      ["DZOgBa40"]),
    ("Old_Hungarian",
      ["CDE0BidBi75"]),
    ("Old_Italic",
      ["CAY0B392"]),
    ("Old_North_Arabian",
      ["CCU0v"]),
    ("Old_Permic",
      ["CA+gBa"]),
    ("Old_Persian",
      ["CA:0B34d"]),
    ("Old_Sogdian",
      ["CDY0B7"]),
    ("Old_South_Arabian",
      ["CCT0v"]),
    ("Old_Turkic",
      ["CDA0C8"]),
    ("Old_Uyghur",
      ["CD=gp"]),
    ("Oriya",
      ["CY1217212l1611142821227241142h"]),
    ("Osage",
      ["CBFgB34B3"]),
    ("Osmanya",
      ["CBE0t29"]),
    ("Pahawh_Hmong",
      ["C+Y0C5a9161k5i"]),
    ("Palmyrene",
      ["CCD0v"]),
    ("Pau_Cin_Hau",
      ["CGW0Bo"]),
    ("Phags_Pa",
      ["BKC0Bn"]),
    ("Phoenician",
      ["CCI0r30"]),
    ("Psalter_Pahlavi",
      ["CC*0h73c6"]),
    ("Rejang",
      ["BKJgB3b0"]),
    ("Runic",
      ["FV0Ca3a"]),
    ("Samaritan",
      ["CA0Bd2e"]),
    ("Saurashtra",
      ["BKE0C58b"]),
    ("Sharada",
      ["CEM0CvCM07"]),
    ("Shavian",
      ["CBCgBf"]),
    ("Siddham",
      ["CFM0Bl2B5"]),
    ("Sidetic",
      ["CCK0p"]),
    ("SignWriting",
      ["DWA0Ubf41e"]),
    ("Sinhala",
      ["DM121h3n181026304510176922CA>cj"]),
    ("Sogdian",
      ["CDZgB9"]),
    ("Sora_Sompeng",
      ["CEGgo79"]),
    ("Soyombo",
      ["CGSgCi"]),
    ("Sundanese",
      ["G*0BvI07"]),
    ("Sunuwar",
      ["CG<0B1e9"]),
    ("Syloti_Nagri",
      ["BKA0Bc"]),
    ("Syriac",
      ["BY0d1Br22Iga"]),
    ("Tagalog",
      ["FY0l90"]),
    ("Tagbanwa",
      ["F=0c1211"]),
    ("Tai_Le",
      ["GKgt24"]),
    ("Tai_Tham",
      ["GR0Bu1s2a696d"]),
    ("Tai_Viet",
      ["BKU0C2o4"]),
    ("Tai_Yo",
      ["DZW0u1l81"]),
    ("Takri",
      ["CFU0Bp69"]),
    ("Tamil",
      ["C*2115321331101131323b4432132060ekCE<5Bhd0"]),
    ("Tangsa",
      ["C+TgCe19"]),
    ("Tangut",
      ["C=>00vGXvQ0uD1Di"]),
    ("Telugu",
      ["DA0c121m1f281213711211232978"]),
    ("Thaana",
      ["B*0Bh"]),
    ("Thai",
      ["DQ1Bp5r"]),
    ("Tibetan",
      ["DY0C71B34B61B31e1641"]),
    ("Tifinagh",
      ["LJgBn71e0"]),
    ("Tirhuta",
      ["CFE0C789"]),
    ("Todhri",
      ["CBO0Bj"]),
    ("Tolong_Siki",
      ["CHNgBb49"]),
    ("Toto",
      ["DYUgu"]),
    ("Tulu_Tigalari",
      ["CE*0910201B519102013191181"]),
    ("Ugaritic",
      ["CA*0t10"]),
    ("Unknown",
      ["=o1637010k0Md0B61Bi130Bn7r36aIe0Bs1D5dBr1Bh1f0s110b4B24Hd08121m0701241912147132051p130",
       "6321m07020202110532132164016h9309030m0702051a030311e41c670308121m0702051912136332051i9",
       "206230422010222232c3523041151dl4d030n0g190304620302141a6m030n0a051903046243041a03bd030",
       "Bj03063g1q030i2o090117213601085a13bBq3tB4201050o010n1501070a14vC80B43B70B40f0dB4G60141",
       "1Lp041701041B9041B1041701041f0Bp041C31B02q5Cm161Ut2Cp6m8o8kbd0302bCu1a5a5q5Cp6Bb4C69v0",
       "c3c312Ba15aBc3q5b2Bu1C10t1b5a5e1Be1cjCd0F67Bs2f2Bu4Bb1b7Bb4Qm161B616180101010v1Bl0f0e1",
       "60j13090D50c1r0d2B2dB1eEc3UqlbkBYk1Lu4Bd01411Bo62do87070707070707070DuB1q0CpbGmpCg0Cm1",
       "D74Bb0Cu0Cm8Bg0*Td2Bn8KsjFo7GtjBs2a5Bo7C67c5Dkau2Ce0b3B10Bn8e1a1D7ns96161687070Bs3Du1a",
       "5K:4bn3BhII3Le1DaB57b54q050102020UavBa5Bj0j04350E7110Fu261616132707951c0q0j020f1eB1Dr4",
       "33Bd2Co0d21BeBeE1t2Bhes3B48u4Bb4u0B53eB9Eu1a5B43B43B87Bkac0f07020b0f07022BkbJn8m98n60B",
       "a09C46110Bc02211n0C879Bfj024B12r4rB5Bo3k1Bi0248030t133a696C0vB73c8Bm2t1r4q64b7CfC9BmBj",
       "cBj6Be7a5B62t72Gfv0Ba0312f679B0Be7BalqB5sjn8Ce3B48C4911p6a5Bl0i7B78D00kai0BfBt701040f0",
       "b5Br4a5408121m0702050a12131151471725aa01110B60a0111040a0272sCs05tC87aF5Bm1B6B1C5aa5diB",
       "q5a5krr1f3nFoBsD3Cjb81118020u021c8aC581Be1bqC87CjcC96aCl8CnB2da590Bd0e9t2B01m0eC87020B",
       "c2102097a56020B502066a5Bc3aHlp6h0B92tCk1eBic*rD5Df05aG4CSbD3cBCm9D*r4S7GVoBqBW5Rp6v0a3",
       "Ch0a5u169C69a070l4jNfBqG5Cr4p1pBbCb3Bp6hBv5a78HGmB8B0D0DjIPs407020J3e1s311d47McCI3Db4d",
       "296a18D+rHt2Nk5neheBe1n8DkBrHm9B71G2kC6DpkbkbCn8pE6Cl0C7021112140c01070C10418070s04050",
       "1270Kk1J41Vue50fBCfv56Gk70h1702054BuB01DfBd2e1a32JvvgBq41OfBaGlBb31Fvv0m72Gv704020f0G5",
       "1gB8Cc3a32YgC4CbBtG140r0201110a040101513101010302011101010101020114070404010a0h43050hB",
       "j2IdBc3D4bf1f0f0B59FeBntcBc3962d6Ep<p2h2d2Gq5c31ec3Bo7a5B87u1c32d9B6Ko7e1d2b2Bp013g1c3",
       "a6Ej0D7BA4BJX0vEIu1FUe1HJheTeCN1QuBP1E+b4IJaVS*61tD0DvHgF>Qf"]),
    ("Vai",
      ["BJI0Jb"]),
    ("Vithkuqi",
      ["CBLga1e16111a1e1611"]),
    ("Wancho",
      ["DYW0Bp50"]),
    ("Warang_Citi",
      ["CGF0Cic0"]),
    ("Yezidi",
      ["CDU0B91221"]),
    ("Yi",
      ["BIA0BEc3Bm"]),
    ("Zanabazar_Square",
      ["CGQ0C7"])
  ]

/-- The names and codes of scripts, in lower case without separators, and the script each stands
for. -/
def scriptNames : List (String × String) :=
  [
    ("adlam", "Adlam"), ("adlm", "Adlam"), ("aghb", "Caucasian_Albanian"), ("ahom", "Ahom"),
    ("anatolianhieroglyphs", "Anatolian_Hieroglyphs"), ("arab", "Arabic"), ("arabic", "Arabic"),
    ("armenian", "Armenian"), ("armi", "Imperial_Aramaic"), ("armn", "Armenian"),
    ("avestan", "Avestan"), ("avst", "Avestan"), ("bali", "Balinese"), ("balinese", "Balinese"),
    ("bamu", "Bamum"), ("bamum", "Bamum"), ("bass", "Bassa_Vah"), ("bassavah", "Bassa_Vah"),
    ("batak", "Batak"), ("batk", "Batak"), ("beng", "Bengali"), ("bengali", "Bengali"),
    ("berf", "Beria_Erfe"), ("beriaerfe", "Beria_Erfe"), ("bhaiksuki", "Bhaiksuki"),
    ("bhks", "Bhaiksuki"), ("bopo", "Bopomofo"), ("bopomofo", "Bopomofo"), ("brah", "Brahmi"),
    ("brahmi", "Brahmi"), ("brai", "Braille"), ("braille", "Braille"), ("bugi", "Buginese"),
    ("buginese", "Buginese"), ("buhd", "Buhid"), ("buhid", "Buhid"), ("cakm", "Chakma"),
    ("canadianaboriginal", "Canadian_Aboriginal"), ("cans", "Canadian_Aboriginal"),
    ("cari", "Carian"), ("carian", "Carian"), ("caucasianalbanian", "Caucasian_Albanian"),
    ("chakma", "Chakma"), ("cham", "Cham"), ("cher", "Cherokee"), ("cherokee", "Cherokee"),
    ("chorasmian", "Chorasmian"), ("chrs", "Chorasmian"), ("common", "Common"),
    ("copt", "Coptic"), ("coptic", "Coptic"), ("cpmn", "Cypro_Minoan"), ("cprt", "Cypriot"),
    ("cuneiform", "Cuneiform"), ("cypriot", "Cypriot"), ("cyprominoan", "Cypro_Minoan"),
    ("cyrillic", "Cyrillic"), ("cyrl", "Cyrillic"), ("deseret", "Deseret"),
    ("deva", "Devanagari"), ("devanagari", "Devanagari"), ("diak", "Dives_Akuru"),
    ("divesakuru", "Dives_Akuru"), ("dogr", "Dogra"), ("dogra", "Dogra"), ("dsrt", "Deseret"),
    ("dupl", "Duployan"), ("duployan", "Duployan"), ("egyp", "Egyptian_Hieroglyphs"),
    ("egyptianhieroglyphs", "Egyptian_Hieroglyphs"), ("elba", "Elbasan"), ("elbasan", "Elbasan"),
    ("elym", "Elymaic"), ("elymaic", "Elymaic"), ("ethi", "Ethiopic"), ("ethiopic", "Ethiopic"),
    ("gara", "Garay"), ("garay", "Garay"), ("geor", "Georgian"), ("georgian", "Georgian"),
    ("glag", "Glagolitic"), ("glagolitic", "Glagolitic"), ("gong", "Gunjala_Gondi"),
    ("gonm", "Masaram_Gondi"), ("goth", "Gothic"), ("gothic", "Gothic"), ("gran", "Grantha"),
    ("grantha", "Grantha"), ("greek", "Greek"), ("grek", "Greek"), ("gujarati", "Gujarati"),
    ("gujr", "Gujarati"), ("gukh", "Gurung_Khema"), ("gunjalagondi", "Gunjala_Gondi"),
    ("gurmukhi", "Gurmukhi"), ("guru", "Gurmukhi"), ("gurungkhema", "Gurung_Khema"),
    ("han", "Han"), ("hang", "Hangul"), ("hangul", "Hangul"), ("hani", "Han"),
    ("hanifirohingya", "Hanifi_Rohingya"), ("hano", "Hanunoo"), ("hanunoo", "Hanunoo"),
    ("hatr", "Hatran"), ("hatran", "Hatran"), ("hebr", "Hebrew"), ("hebrew", "Hebrew"),
    ("hira", "Hiragana"), ("hiragana", "Hiragana"), ("hluw", "Anatolian_Hieroglyphs"),
    ("hmng", "Pahawh_Hmong"), ("hmnp", "Nyiakeng_Puachue_Hmong"), ("hung", "Old_Hungarian"),
    ("imperialaramaic", "Imperial_Aramaic"), ("inherited", "Inherited"),
    ("inscriptionalpahlavi", "Inscriptional_Pahlavi"),
    ("inscriptionalparthian", "Inscriptional_Parthian"), ("ital", "Old_Italic"),
    ("java", "Javanese"), ("javanese", "Javanese"), ("kaithi", "Kaithi"), ("kali", "Kayah_Li"),
    ("kana", "Katakana"), ("kannada", "Kannada"), ("katakana", "Katakana"), ("kawi", "Kawi"),
    ("kayahli", "Kayah_Li"), ("khar", "Kharoshthi"), ("kharoshthi", "Kharoshthi"),
    ("khitansmallscript", "Khitan_Small_Script"), ("khmer", "Khmer"), ("khmr", "Khmer"),
    ("khoj", "Khojki"), ("khojki", "Khojki"), ("khudawadi", "Khudawadi"),
    ("kiratrai", "Kirat_Rai"), ("kits", "Khitan_Small_Script"), ("knda", "Kannada"),
    ("krai", "Kirat_Rai"), ("kthi", "Kaithi"), ("lana", "Tai_Tham"), ("lao", "Lao"),
    ("laoo", "Lao"), ("latin", "Latin"), ("latn", "Latin"), ("lepc", "Lepcha"),
    ("lepcha", "Lepcha"), ("limb", "Limbu"), ("limbu", "Limbu"), ("lina", "Linear_A"),
    ("linb", "Linear_B"), ("lineara", "Linear_A"), ("linearb", "Linear_B"), ("lisu", "Lisu"),
    ("lyci", "Lycian"), ("lycian", "Lycian"), ("lydi", "Lydian"), ("lydian", "Lydian"),
    ("mahajani", "Mahajani"), ("mahj", "Mahajani"), ("maka", "Makasar"), ("makasar", "Makasar"),
    ("malayalam", "Malayalam"), ("mand", "Mandaic"), ("mandaic", "Mandaic"),
    ("mani", "Manichaean"), ("manichaean", "Manichaean"), ("marc", "Marchen"),
    ("marchen", "Marchen"), ("masaramgondi", "Masaram_Gondi"), ("medefaidrin", "Medefaidrin"),
    ("medf", "Medefaidrin"), ("meeteimayek", "Meetei_Mayek"), ("mend", "Mende_Kikakui"),
    ("mendekikakui", "Mende_Kikakui"), ("merc", "Meroitic_Cursive"),
    ("mero", "Meroitic_Hieroglyphs"), ("meroiticcursive", "Meroitic_Cursive"),
    ("meroitichieroglyphs", "Meroitic_Hieroglyphs"), ("miao", "Miao"), ("mlym", "Malayalam"),
    ("modi", "Modi"), ("mong", "Mongolian"), ("mongolian", "Mongolian"), ("mro", "Mro"),
    ("mroo", "Mro"), ("mtei", "Meetei_Mayek"), ("mult", "Multani"), ("multani", "Multani"),
    ("myanmar", "Myanmar"), ("mymr", "Myanmar"), ("nabataean", "Nabataean"),
    ("nagm", "Nag_Mundari"), ("nagmundari", "Nag_Mundari"), ("nand", "Nandinagari"),
    ("nandinagari", "Nandinagari"), ("narb", "Old_North_Arabian"), ("nbat", "Nabataean"),
    ("newa", "Newa"), ("newtailue", "New_Tai_Lue"), ("nko", "Nko"), ("nkoo", "Nko"),
    ("nshu", "Nushu"), ("nushu", "Nushu"), ("nyiakengpuachuehmong", "Nyiakeng_Puachue_Hmong"),
    ("ogam", "Ogham"), ("ogham", "Ogham"), ("olchiki", "Ol_Chiki"), ("olck", "Ol_Chiki"),
    ("oldhungarian", "Old_Hungarian"), ("olditalic", "Old_Italic"),
    ("oldnortharabian", "Old_North_Arabian"), ("oldpermic", "Old_Permic"),
    ("oldpersian", "Old_Persian"), ("oldsogdian", "Old_Sogdian"),
    ("oldsoutharabian", "Old_South_Arabian"), ("oldturkic", "Old_Turkic"),
    ("olduyghur", "Old_Uyghur"), ("olonal", "Ol_Onal"), ("onao", "Ol_Onal"), ("oriya", "Oriya"),
    ("orkh", "Old_Turkic"), ("orya", "Oriya"), ("osage", "Osage"), ("osge", "Osage"),
    ("osma", "Osmanya"), ("osmanya", "Osmanya"), ("ougr", "Old_Uyghur"),
    ("pahawhhmong", "Pahawh_Hmong"), ("palm", "Palmyrene"), ("palmyrene", "Palmyrene"),
    ("pauc", "Pau_Cin_Hau"), ("paucinhau", "Pau_Cin_Hau"), ("perm", "Old_Permic"),
    ("phag", "Phags_Pa"), ("phagspa", "Phags_Pa"), ("phli", "Inscriptional_Pahlavi"),
    ("phlp", "Psalter_Pahlavi"), ("phnx", "Phoenician"), ("phoenician", "Phoenician"),
    ("plrd", "Miao"), ("prti", "Inscriptional_Parthian"), ("psalterpahlavi", "Psalter_Pahlavi"),
    ("qaac", "Coptic"), ("qaai", "Inherited"), ("rejang", "Rejang"), ("rjng", "Rejang"),
    ("rohg", "Hanifi_Rohingya"), ("runic", "Runic"), ("runr", "Runic"),
    ("samaritan", "Samaritan"), ("samr", "Samaritan"), ("sarb", "Old_South_Arabian"),
    ("saur", "Saurashtra"), ("saurashtra", "Saurashtra"), ("sgnw", "SignWriting"),
    ("sharada", "Sharada"), ("shavian", "Shavian"), ("shaw", "Shavian"), ("shrd", "Sharada"),
    ("sidd", "Siddham"), ("siddham", "Siddham"), ("sidetic", "Sidetic"), ("sidt", "Sidetic"),
    ("signwriting", "SignWriting"), ("sind", "Khudawadi"), ("sinh", "Sinhala"),
    ("sinhala", "Sinhala"), ("sogd", "Sogdian"), ("sogdian", "Sogdian"), ("sogo", "Old_Sogdian"),
    ("sora", "Sora_Sompeng"), ("sorasompeng", "Sora_Sompeng"), ("soyo", "Soyombo"),
    ("soyombo", "Soyombo"), ("sund", "Sundanese"), ("sundanese", "Sundanese"),
    ("sunu", "Sunuwar"), ("sunuwar", "Sunuwar"), ("sylo", "Syloti_Nagri"),
    ("sylotinagri", "Syloti_Nagri"), ("syrc", "Syriac"), ("syriac", "Syriac"),
    ("tagalog", "Tagalog"), ("tagb", "Tagbanwa"), ("tagbanwa", "Tagbanwa"), ("taile", "Tai_Le"),
    ("taitham", "Tai_Tham"), ("taiviet", "Tai_Viet"), ("taiyo", "Tai_Yo"), ("takr", "Takri"),
    ("takri", "Takri"), ("tale", "Tai_Le"), ("talu", "New_Tai_Lue"), ("tamil", "Tamil"),
    ("taml", "Tamil"), ("tang", "Tangut"), ("tangsa", "Tangsa"), ("tangut", "Tangut"),
    ("tavt", "Tai_Viet"), ("tayo", "Tai_Yo"), ("telu", "Telugu"), ("telugu", "Telugu"),
    ("tfng", "Tifinagh"), ("tglg", "Tagalog"), ("thaa", "Thaana"), ("thaana", "Thaana"),
    ("thai", "Thai"), ("tibetan", "Tibetan"), ("tibt", "Tibetan"), ("tifinagh", "Tifinagh"),
    ("tirh", "Tirhuta"), ("tirhuta", "Tirhuta"), ("tnsa", "Tangsa"), ("todhri", "Todhri"),
    ("todr", "Todhri"), ("tolongsiki", "Tolong_Siki"), ("tols", "Tolong_Siki"), ("toto", "Toto"),
    ("tulutigalari", "Tulu_Tigalari"), ("tutg", "Tulu_Tigalari"), ("ugar", "Ugaritic"),
    ("ugaritic", "Ugaritic"), ("unknown", "Unknown"), ("vai", "Vai"), ("vaii", "Vai"),
    ("vith", "Vithkuqi"), ("vithkuqi", "Vithkuqi"), ("wancho", "Wancho"),
    ("wara", "Warang_Citi"), ("warangciti", "Warang_Citi"), ("wcho", "Wancho"),
    ("xpeo", "Old_Persian"), ("xsux", "Cuneiform"), ("yezi", "Yezidi"), ("yezidi", "Yezidi"),
    ("yi", "Yi"), ("yiii", "Yi"), ("zanabazarsquare", "Zanabazar_Square"),
    ("zanb", "Zanabazar_Square"), ("zinh", "Inherited"), ("zyyy", "Common"), ("zzzz", "Unknown")
  ]

end Unicode

end Intake
