import DeclAtlas.Character.Table

/-!
# Characters shared by scripts

For each script the characters that are common or inherited but known to be used by it, as Unicode 16
gives them.
-/

namespace DeclAtlas.Character

/-- The characters that a script shares with others. -/
def sharedScriptTable : List Entry :=
  [⟨["adlam", "adlm"], ["mo10W10ay60Zr30"]⟩,
   ⟨["caucasianalbanian", "aghb"], ["xO0i10i10"]⟩,
   ⟨["arabic", "arab"], ["yn10E030W10AAQ0ow60Zr30eZt11jk1R"]⟩,
   ⟨["armenian", "armn"], ["WP0"]⟩,
   ⟨["avestan", "avst"], ["x50kYC1"]⟩,
   ⟨["bengali", "beng"], ["nM0fs11H1fa501021108080204022xdb10"]⟩,
   ⟨["bopomofo", "bopo"], ["yM012D0wVC2491CA32060e60dqs11Y94"]⟩,
   ⟨["buginese", "bugi"], ["ecj10"]⟩,
   ⟨["buhid", "buhd"], ["pa61"]⟩,
   ⟨["chakma", "cakm"], ["so29Zq19"]⟩,
   ⟨["carian", "cari"], ["x50ci8020aq30"]⟩,
   ⟨["cherokee", "cher"], ["tO21061M1B1"]⟩,
   ⟨["coptic", "copt", "qaac"], ["x50vI03110k31WgB0aqu1R"]⟩,
   ⟨["cyprominoan", "cpmn"], ["fjb21"]⟩,
   ⟨["cypriot", "cprt"], ["fjb224i138"]⟩,
   ⟨["cyrillic", "cyrl"], ["nM0a221010102050zB1Yt60lf40"]⟩,
   ⟨["devanagari", "deva"], ["nM0fs11H1fa5c111rW10wVa19"]⟩,
   ⟨["dogra", "dogr"], ["mk2Bzdg19"]⟩,
   ⟨["duployan", "dupl"], ["x50XJ110O1vjB0xYi33"]⟩,
   ⟨["elbasan", "elba"], ["x50VJ0"]⟩,
   ⟨["ethiopic", "ethi"], ["cP0"]⟩,
   ⟨["garay", "gara"], ["yn10E030"]⟩,
   ⟨["georgian", "geor"], ["x50td10kW30xX40dq30"]⟩,
   ⟨["glagolitic", "glag"], ["x50yI010fC020e80kW30xX40vq30gVW10"]⟩,
   ⟨["gunjalagondi", "gong"], ["x50oe21"]⟩,
   ⟨["masaramgondi", "gonm"], ["mk21"]⟩,
   ⟨["gothic", "goth"], ["x50zI120e10"]⟩,
   ⟨["grantha", "gran"], ["yj21H1pKDck4011U231rW10vlX20wf3110"]⟩,
   ⟨["greek", "grek"], ["x50vI1201010A0k1020k10ZV71lL0"]⟩,
   ⟨["gujarati", "gujr"], ["yj21H1eeg19"]⟩,
   ⟨["gurungkhema", "gukh"], ["nk20"]⟩,
   ⟨["gurmukhi", "guru"], ["yj21H1eeg19"]⟩,
   ⟨["hangul", "hang"], ["itC2491CG060e60dqs11Y94"]⟩,
   ⟨["han", "hani"],
    ["x50ymCF1220191CA3206043W60t4FW1b190m1d1u1m1FBp10v2OA4Y3UroU7icN1Y94lju1Hxb81"]⟩,
   ⟨["hanunoo", "hano"], ["pa61"]⟩,
   ⟨["hebrew", "hebr"], ["VP1"]⟩,
   ⟨["hiragana", "hira"], ["itC2491CG51041y2330x21cqs11Y94A0j11"]⟩,
   ⟨["oldhungarian", "hung"], ["ao8020aq30F0"]⟩,
   ⟨["javanese", "java"], ["ecj10"]⟩,
   ⟨["kayahli", "kali"], ["YXj10"]⟩,
   ⟨["katakana", "kana"], ["yO0T0kyB2491CG51041y2330x21cqs11Y94A0j11"]⟩,
   ⟨["khojki", "khoj"], ["Vx29nwf19"]⟩,
   ⟨["kannada", "knda"], ["yj21H1fa501160N010tXb15"]⟩,
   ⟨["kaithi", "kthi"], ["ok29lt90ikW19"]⟩,
   ⟨["latin", "latn"],
    ["x50pG0A012109010c1E1110F27111c10504Cy81md11cW20cj30dI0b60nk30jbW17sH0"]⟩,
   ⟨["limbu", "limb"], ["nk20"]⟩,
   ⟨["lineara", "lina"], ["mjb2i1"]⟩,
   ⟨["linearb", "linb"], ["fjb224i138"]⟩,
   ⟨["lisu"], ["nM0G0mWC1"]⟩,
   ⟨["lycian", "lyci"], ["ao80"]⟩,
   ⟨["lydian", "lydi"], ["x50lYC0"]⟩,
   ⟨["mahajani", "mahj"], ["x50oe2Bzdg19"]⟩,
   ⟨["mandaic", "mand"], ["op10"]⟩,
   ⟨["manichaean", "mani"], ["op10"]⟩,
   ⟨["meroitichieroglyphs", "mero"], ["do80"]⟩,
   ⟨["malayalam", "mlym"], ["yj21H1pa50N0vXb12"]⟩,
   ⟨["modi"], ["xti19"]⟩,
   ⟨["mongolian", "mong"], ["dh6110ha20ob4153"]⟩,
   ⟨["multani", "mult"], ["ws29"]⟩,
   ⟨["myanmar", "mymr"], ["YXj10"]⟩,
   ⟨["nandinagari", "nand"], ["yj20I1xS9xc408070nXb15"]⟩,
   ⟨["newa"], ["yj21Yb501190601010"]⟩,
   ⟨["nko", "nkoo"], ["yn10E030ruY21"]⟩,
   ⟨["olonal", "onao"], ["mk21"]⟩,
   ⟨["oldturkic", "orkh"], ["ao80cq30"]⟩,
   ⟨["oriya", "orya"], ["yj21H1pa50N0"]⟩,
   ⟨["osage", "osge"], ["uO02060j20"]⟩,
   ⟨["olduyghur", "ougr"], ["op10uic20"]⟩,
   ⟨["oldpermic", "perm"], ["x50vI052A0vB0"]⟩,
   ⟨["phagspa", "phag"], ["dh6110ha20pb40"]⟩,
   ⟨["psalterpahlavi", "phlp"], ["op10"]⟩,
   ⟨["hanifirohingya", "rohg"], ["yn10E030W10s40"]⟩,
   ⟨["runic", "runr"], ["dY62"]⟩,
   ⟨["samaritan", "samr"], ["jeC0"]⟩,
   ⟨["shavian", "shaw"], ["x50"]⟩,
   ⟨["sharada", "shrd"], ["yj20bb501021209020VYb1520"]⟩,
   ⟨["khudawadi", "sind"], ["mk21eeg19"]⟩,
   ⟨["sinhala", "sinh"], ["mk21ib50"]⟩,
   ⟨["sogdian", "sogd"], ["op10"]⟩,
   ⟨["sunuwar", "sunu"], ["tO1109020S030"]⟩,
   ⟨["sylotinagri", "sylo"], ["mk21Z49"]⟩,
   ⟨["syriac", "syrc"], ["wO12110O27111mN0E120W10AAQ0ed6010"]⟩,
   ⟨["tagbanwa", "tagb"], ["pa61"]⟩,
   ⟨["takri", "takr"], ["mk21eeg19"]⟩,
   ⟨["taile", "tale"], ["tO15130Vl39"]⟩,
   ⟨["tamil", "taml"], ["yj21H1pa50xeb10tcS010t11"]⟩,
   ⟨["tangut", "tang"], ["wsCFzF0"]⟩,
   ⟨["telugu", "telu"], ["yj21H1ka511010N0"]⟩,
   ⟨["tifinagh", "tfng"], ["vO01013P0"]⟩,
   ⟨["tagalog", "tglg"], ["pa61"]⟩,
   ⟨["thaana", "thaa"], ["yn10E120X29ZyY20A0"]⟩,
   ⟨["thai"], ["nM0Q0h10j10"]⟩,
   ⟨["tibetan", "tibt"], ["ptC3"]⟩,
   ⟨["tirhuta", "tirh"], ["yj21H1ka50C0F0vXb19"]⟩,
   ⟨["todhri", "todr"], ["uO020209010h20"]⟩,
   ⟨["toto"], ["nM0"]⟩,
   ⟨["tulutigalari", "tutg"], ["li39bd4010tXb15W60"]⟩,
   ⟨["yezidi", "yezi"], ["yn10E030X29"]⟩,
   ⟨["yi", "yiii"], ["itC15927b70izs14"]⟩]

end DeclAtlas.Character
