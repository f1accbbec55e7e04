import DeclAtlas.Character.Table

/-!
# The characters of the scripts

The script that most uses a character, as Unicode 16 gives it.  Characters that several scripts use
alike are common, and marks that take the script of the character before them are inherited.
-/

namespace DeclAtlas.Character

/-- The scripts with codes up to Kirat Rai. -/
def scriptTableAK : List Entry :=
  [⟨["adlam", "adlm"], ["bdb4i24941"]⟩,
   ⟨["caucasianalbanian", "aghb"], ["xmc2p1B0"]⟩,
   ⟨["ahom"], ["Vfh2Q2E4M"]⟩,
   ⟨["arabic", "arab"],
    ["mn14151D121V119BP1j31X1n2l1s7U115h21SWmX2q3GqB2m22r170W1Fo341f4XY4Ua22t13mhx131Q11102019",
     "13101060401010121110201010101011102316131310191G52141Gq11"]⟩,
   ⟨["imperialaramaic", "armi"], ["bhd2L18"]⟩,
   ⟨["armenian", "armn"], ["wg1b12n122jhY24"]⟩,
   ⟨["avestan", "avst"], ["xYe2r136"]⟩,
   ⟨["balinese", "bali"], ["za7j21n1"]⟩,
   ⟨["bamum", "bamu"], ["Vhi1u2Xip1fI"]⟩,
   ⟨["bassavah", "bass"], ["ZpY3T25"]⟩,
   ⟨["batak", "batk"], ["ah7p183"]⟩,
   ⟨["bengali", "beng"], ["jl2317212L1610332821238041142O"]⟩,
   ⟨["bhaiksuki", "bhks"], ["epi281i11DAS"]⟩,
   ⟨["bopomofo", "bopo"], ["XO1qdCg1o3V1"]⟩,
   ⟨["brahmi", "brah"], ["bjf2k24Z190"]⟩,
   ⟨["braille", "brai"], ["fpAc8"]⟩,
   ⟨["buginese", "bugi"], ["rx6R21"]⟩,
   ⟨["buhid", "buhd"], ["Vb6J"]⟩,
   ⟨["chakma", "cakm"], ["jrf2q11H"]⟩,
   ⟨["canadianaboriginal", "cans"], ["af5oKXIc2fpb2F"]⟩,
   ⟨["carian", "cari"], ["swb2m1"]⟩,
   ⟨["cham"], ["wdj1s19D2923"]⟩,
   ⟨["cherokee", "cher"], ["Xc5s225pfe1m2"]⟩,
   ⟨["chorasmian", "chrs"], ["ogf2R"]⟩,
   ⟨["coptic", "copt", "qaac"], ["XW1DztAr356"]⟩,
   ⟨["cyprominoan", "cpmn"], ["vvn2a3"]⟩,
   ⟨["cypriot", "cprt"], ["Zfd25201h1113020"]⟩,
   ⟨["cyrillic", "cyrl"], ["WX1d42i5lb6Aa50j20jg4V1WWW1X3WfN1fby1z1X10"]⟩,
   ⟨["devanagari", "deva"], ["fh2n24E2PZjg1V1igU9"]⟩,
   ⟨["divesakuru", "diak"], ["lvh262027111T112B99"]⟩,
   ⟨["dogra", "dogr"], ["dnh2x1"]⟩,
   ⟨["deseret", "dsrt"], ["Ydc2m2"]⟩,
   ⟨["duployan", "dupl"], ["ndu3i35C387923"]⟩,
   ⟨["egyptianhieroglyphs", "egyp"], ["jzn2tZ1AvZ4"]⟩,
   ⟨["elbasan", "elba"], ["glc2d1"]⟩,
   ⟨["elymaic", "elym"], ["aif2M"]⟩,
   ⟨["ethiopic", "ethi"],
    ["pt4f2132610132e1132W1132610132E1u1132Z22V13Pww6M9616161616161616gfX1525259616dgr2613111E"]⟩,
   ⟨["garay", "gara"], ["kre2b13S81"]⟩,
   ⟨["georgian", "geor"], ["ei4b110502g113kX3g122bf4b11050"]⟩,
   ⟨["glagolitic", "glag"], ["grBX3iWs361G261114"]⟩,
   ⟨["gunjalagondi", "gong"], ["pVj25111a1111579"]⟩,
   ⟨["masaramgondi", "gonm"], ["mxi26111h130111889"]⟩,
   ⟨["gothic", "goth"], ["hWc2Q"]⟩,
   ⟨["grantha", "gran"], ["zcg2317212L1611142821222060562634"]⟩,
   ⟨["greek", "grek"],
    ["hS3122310401012101J1V2EFqq64o1444r20fAL252b125271010101U2q11E1D251I2218l90oua10zvMl2H0sk",
     "t1c2"]⟩,
   ⟨["gujarati", "gujr"], ["st2218121L16111429121220F32B76"]⟩,
   ⟨["gurungkhema", "gukh"], ["YWW3v1"]⟩,
   ⟨["gurmukhi", "guru"], ["op2215412L16111111201441223073107G"]⟩,
   ⟨["hangul", "hang"], ["hl4c8cW81e8V3p3UY2UrpV1SsKgoBCM4m1gmAU35252522"]⟩,
   ⟨["han", "hani"],
    ["VhCP1v2Cw6l1010P8E3YV1ov6X2ZvLzqNtB2h3jaV11C1ogc1Wji1W1ze46Z72vz5EWt7FWKmm2jHnm1eZ55bg4"]⟩,
   ⟨["hanunoo", "hano"], ["zZ6K"]⟩,
   ⟨["hatran", "hatr"], ["gmd2I1154"]⟩,
   ⟨["hebrew", "hebr"], ["zj1s18Q45leY2P1410111119"]⟩,
   ⟨["hiragana", "hira"], ["kvCs262zYe3c9I0T2YcH0"]⟩,
   ⟨["anatolianhieroglyphs", "hluw"], ["oet2tI"]⟩,
   ⟨["pahawhhmong", "hmng"], ["qqY3c2A9161K5I"]⟩,
   ⟨["nyiakengpuachuehmong", "hmnp"], ["ZZZ4i13D2941"]⟩,
   ⟨["oldhungarian", "hung"], ["ele2o1Do175"]⟩,
   ⟨["olditalic", "ital"], ["vzb2Z192"]⟩,
   ⟨["javanese", "java"], ["sZj1k22941"]⟩,
   ⟨["kayahli", "kali"], ["oVj1j110"]⟩,
   ⟨["katakana", "kana"], ["nyCw222s7Fr6k11u2Ygs191i1Xzk13161110d92o10E3"]⟩,
   ⟨["kawi"], ["Xjj2G1e13S"]⟩,
   ⟨["kharoshthi", "khar"], ["pvd231157121S224978"]⟩,
   ⟨["khmer", "khmr"], ["Xd6V32969qFV1"]⟩,
   ⟨["khojki", "khoj"], ["rzf2H1k1"]⟩,
   ⟨["khitansmallscript", "kits"], ["XVa30vb7ZFf10"]⟩,
   ⟨["kannada", "knda"], ["cf3C121M19142812137161132912"]⟩,
   ⟨["kiratrai", "krai"], ["deZ3v1"]⟩]

/-- The scripts with codes behind Kirat Rai. -/
def scriptTableLZ : List Entry :=
  [⟨["kaithi", "kthi"], ["fnf2Z2A0"]⟩,
   ⟨["taitham", "lana"], ["sy6V21S2A696D"]⟩,
   ⟨["lao", "laoo"], ["tv3110141N101M2410161923"]⟩,
   ⟨["latin", "latn"],
    ["Y2P6Pl10F05M1U1jEd14ny6b16m1535C1c2Y2c8xB0D0GCm4160R0He1lw2V1rpW1d33Z2211017LDfQg11813cb",
     "L6wX1P6Pda251f118rfv1U65"]⟩,
   ⟨["lepcha", "lepc"], ["cj7t13E32"]⟩,
   ⟨["limbu", "limb"], ["jp6U1B4B403B"]⟩,
   ⟨["lineara", "lina"], ["otc2VA9LA7"]⟩,
   ⟨["linearb", "linb"], ["Xbb2B1P1I111E2DY1y3"]⟩,
   ⟨["lisu"], ["Wxh1l1aqW10"]⟩,
   ⟨["lycian", "lyci"], ["rvb2S"]⟩,
   ⟨["lydian", "lydi"], ["iod2P50"]⟩,
   ⟨["mahajani", "mahj"], ["Wuf2c1"]⟩,
   ⟨["makasar", "maka"], ["Wij2O"]⟩,
   ⟨["mandaic", "mand"], ["Zb2R20"]⟩,
   ⟨["manichaean", "mani"], ["vWe2c14B"]⟩,
   ⟨["marchen", "marc"], ["xsi2V12L1D"]⟩,
   ⟨["medefaidrin", "medf"], ["lmZ3x2"]⟩,
   ⟨["mendekikakui", "mend"], ["yza4f62F"]⟩,
   ⟨["meroiticcursive", "merc"], ["msd2N4J2j1"]⟩,
   ⟨["meroitichieroglyphs", "mero"], ["lrd2V1"]⟩,
   ⟨["malayalam", "mlym"], ["gj3C121o112154F2P"]⟩,
   ⟨["modi"], ["sWh2b2B9"]⟩,
   ⟨["mongolian", "mong"], ["bh61201J6v27g1Zna2C"]⟩,
   ⟨["mro", "mroo"], ["kkY3U1941"]⟩,
   ⟨["meeteimayek", "mtei"], ["Ylj1Mk6j129"]⟩,
   ⟨["multani", "mult"], ["vYg2610131E1A"]⟩,
   ⟨["myanmar", "mymr"], ["Zd4Z5mue1UZ3V1jvSJ"]⟩,
   ⟨["nagmundari", "nagm"], ["oZa4f1"]⟩,
   ⟨["nandinagari", "nand"], ["qVi272j12A"]⟩,
   ⟨["oldnortharabian", "narb"], ["tzd2V1"]⟩,
   ⟨["nabataean", "nbat"], ["djd2U88"]⟩,
   ⟨["newa"], ["clg2y214"]⟩,
   ⟨["nko", "nkoo"], ["VX2w122"]⟩,
   ⟨["nushu", "nshu"], ["zzZ30gjHsC"]⟩,
   ⟨["ogham", "ogam"], ["uz5S"]⟩,
   ⟨["olchiki", "olck"], ["ul7l1"]⟩,
   ⟨["olonal", "onao"], ["wha4g140"]⟩,
   ⟨["oldturkic", "orkh"], ["ahe2f2"]⟩,
   ⟨["oriya", "orya"], ["wx2217212L1611142821227241142H"]⟩,
   ⟨["osage", "osge"], ["tic2Z14Z1"]⟩,
   ⟨["osmanya", "osma"], ["chc2T29"]⟩,
   ⟨["olduyghur", "ougr"], ["mef2P"]⟩,
   ⟨["palmyrene", "palm"], ["cid2V1"]⟩,
   ⟨["paucinhau", "pauc"], ["zei2u1"]⟩,
   ⟨["oldpermic", "perm"], ["iXc2g1"]⟩,
   ⟨["phagspa", "phag"], ["iui1t1"]⟩,
   ⟨["inscriptionalpahlavi", "phli"], ["Vce2I57"]⟩,
   ⟨["psalterpahlavi", "phlp"], ["Wde2H73C6"]⟩,
   ⟨["phoenician", "phnx"], ["hnd2R30"]⟩,
   ⟨["miao", "plrd"], ["rsZ3h24u17G"]⟩,
   ⟨["inscriptionalparthian", "prti"], ["zae2L27"]⟩,
   ⟨["rejang", "rjng"], ["aXj1Z1B0"]⟩,
   ⟨["hanifirohingya", "rohg"], ["ipe2d189"]⟩,
   ⟨["runic", "runr"], ["vV6h23A"]⟩,
   ⟨["samaritan", "samr"], ["XZ2j12E"]⟩,
   ⟨["oldsoutharabian", "sarb"], ["syd2V1"]⟩,
   ⟨["saurashtra", "saur"], ["kwi1c28B"]⟩,
   ⟨["signwriting", "sgnw"], ["urW4VLF41E"]⟩,
   ⟨["shavian", "shaw"], ["qfc2l1"]⟩,
   ⟨["sharada", "shrd"], ["nvf2X3"]⟩,
   ⟨["siddham", "sidd"], ["oxg2r12b1"]⟩,
   ⟨["khudawadi", "sind"], ["hag2w159"]⟩,
   ⟨["sinhala", "sinh"], ["ln321H3N181026304510176922jcc2J"]⟩,
   ⟨["sogdian", "sogd"], ["kcf2f1"]⟩,
   ⟨["oldsogdian", "sogo"], ["yaf2d1"]⟩,
   ⟨["sorasompeng", "sora"], ["xpf2O79"]⟩,
   ⟨["soyombo", "soyo"], ["gbi2p2"]⟩,
   ⟨["sundanese", "sund"], ["Yf7W2d87"]⟩,
   ⟨["sunuwar", "sunu"], ["cni2X1E9"]⟩,
   ⟨["sylotinagri", "sylo"], ["gsi1i1"]⟩,
   ⟨["syriac", "syrc"], ["uv1D1x122t8A"]⟩,
   ⟨["tagbanwa", "tagb"], ["Wc6C1211"]⟩,
   ⟨["takri", "takr"], ["wah2v169"]⟩,
   ⟨["taile", "tale"], ["Ws6T24"]⟩,
   ⟨["newtailue", "talu"], ["nt6h14P6A31"]⟩,
   ⟨["tamil", "taml"], ["WX3115321331101131323B4432132060EKfjg2n1D0"]⟩,
   ⟨["tangut", "tang"], ["yzZ30V1xg68sOlG8"]⟩,
   ⟨["taiviet", "tavt"], ["Vij1Z2O4"]⟩,
   ⟨["telugu", "telu"], ["Yb3C121M1F281213711220232978"]⟩,
   ⟨["tifinagh", "tfng"], ["aWCt171E0"]⟩,
   ⟨["tagalog", "tglg"], ["yY6L90"]⟩,
   ⟨["thaana", "thaa"], ["yz1n1"]⟩,
   ⟨["thai"], ["pr3v15R"]⟩,
   ⟨["tibetan", "tibt"], ["wz3e21Z14c11Z11E1641"]⟩,
   ⟨["tirhuta", "tirh"], ["gpg2e289"]⟩,
   ⟨["tangsa", "tnsa"], ["WmY3l219"]⟩,
   ⟨["todhri", "todr"], ["mrc2p1"]⟩,
   ⟨["toto"], ["WmZ4U"]⟩,
   ⟨["tulutigalari", "tutg"], ["Yhg2910201b119102013191181"]⟩,
   ⟨["ugaritic", "ugar"], ["zYc2T10"]⟩,
   ⟨["vai", "vaii"], ["nyh1p9"]⟩,
   ⟨["vithkuqi", "vith"], ["zoc2A1E16111A1E1611"]⟩,
   ⟨["warangciti", "wara"], ["ish2p2C0"]⟩,
   ⟨["wancho", "wcho"], ["nnZ4v150"]⟩,
   ⟨["oldpersian", "xpeo"], ["Vac2Z14D"]⟩,
   ⟨["cuneiform", "xsux"], ["frj2rTe3m314Be6"]⟩,
   ⟨["yezidi", "yezi"], ["uWf2f11221"]⟩,
   ⟨["yi", "yiii"], ["eog1mb13s1"]⟩,
   ⟨["zanabazarsquare", "zanb"], ["tYi2e2"]⟩,
   ⟨["inherited", "zinh", "qaai"],
    ["tOn3y81nEAQ0sN3fo4UmG21C16406031h6W2xG1d6W1rW43j31ars1FGDjV10e70Wg40nVo1j12MmH2H726U3myt",
     "Qr7"]⟩,
   ⟨["common", "zyyy"],
    ["0X2Q5Qk11E14N0V10kEc1542Js30906010mK060E030W10W50pG0a41We10XD3g90Vn12e21m6110pd10D073151",
     "220yOB2t21A3A1EHW1W2b112251Q1Gf124jLMALxTd8cK2V11g3lGV3zCK101OF743y2130x21s4FW1b190m1W2V",
     "1n2l10v2h5pv6W2zqNX1e32f59w70a50sC0E1qtL1r69MY11I13s401V1Q5QAA0j11X2616A4f824i138n2Cp1i1",
     "g7QWjn13vX4W86WEW5r3y1x7Ac12z13G817T4y1w6JCJCt29Og4r21d2112021231B10161X21327161R1314103",
     "61yA2h92n1ui5a2j2y1tMh14b3CE2E1E1a1An5u1P11Dh14871E5z4rV14G3C3u34W36B40FB4t1896d18T2B41V",
     "2yACD2C395t17E2A687r41d3WiiQ0UX3"]⟩]

/-- The scripts. -/
def scriptTable : List Entry := scriptTableAK ++ scriptTableLZ

end DeclAtlas.Character
