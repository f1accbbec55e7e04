import DeclAtlas.Character.Table

/-!
# The characters with a property

Properties that a character has or has not, as Unicode 16 gives them.  Those that follow from others
are not written here.
-/

namespace DeclAtlas.Character

/-- Properties of letters, signs and blanks. -/
def signTable : List Entry :=
  [⟨["asciihexdigit", "ahex"], ["m1975Q5"]⟩,
   ⟨["bidicontrol", "bidic"], ["jo10cx61Q4t13"]⟩,
   ⟨["bidimirrored", "bidim"],
    ["e11I010S010T010j10F0qv33uy11gm21A1s11E1r50b633530313313101048501H539110172U2350912I51942",
     "14N2F83K171VZ1Dh2023111253523DVDL251D807530441124401221A521CI13201020135162O1B14311214g1",
     "271d150103452403410d80oG33111E129h17tD927Zys1551c51I010S010T0101111fhv10v10v10v10v10"]⟩,
   ⟨["dash"], ["j10di10p10rt30bX10gZ25z10d10F0nC0cb3020V1140S0hE0J0n30mss11b10A0j50ru30dA0"]⟩,
   ⟨["deprecated", "dep"], ["oA0og10ih2010ha21if25kM1lgkU0"]⟩,
   ⟨["diacritic", "dia"],
    ["W3010e20604021cGY51755H14091a84s60t1i110111110c4741f414132a2Qy2Aw1AY11X47f19GRz10G033S0h",
     "20G0m30G0m30G0l12y10G070v30m30G0m30G0l31G0V40n30C510j30D4i21R0101041Z2211V20o3011e1144P6",
     "10A1sM2nU1U0t4A90bB2i90K720m1E2Ag30F0c18s11w10B1Z21X25p2O406022o1V2m1Z15Bb1AgE012B2D2D2D",
     "1vi32cA0fG5h33X30wdV10C110S1p21EX1e32l31C0b10w40RHv13a10X30C0a10u42Y23p10c3492Z41yXL0uOF",
     "r8010l10j11a20pO0ac151f118mK240f51iI5c10Q4wC2d2An13b60f10f21w31V20j2092g31s51n21G0O634w2",
     "211D1X3030z31Y81X40u31r30q81f8140W50q20I0o20nD0f8011o20rD1N0tm5EgyB0ln24x16bI1oHGn21jWH3",
     "1611Wd8j12MmH2358726U3uv3z1d66YC0z13rO1sN6l3212"]⟩,
   ⟨["extender", "ext"],
    ["x50eH1fS0cE0fK0i40w20dO0Y40kj20u10rJ0vC0b20fb50h14f31V32gnT0cn10WV10M0i40k30L1pkM0nZ21vl",
     "10R040jd10j90s31XG2rd10YkL1Xc1110VbU1sc10kR2"]⟩,
   ⟨["graphemelink", "grlink"],
    ["uj20Y40Y40Y40Y40Y40Y40Y40l31G0V40n30Y40k60u51mu11U0X50XL0f70d31d21wp40uoW10b10w40n40k30z",
     "90y70wYP0sn10f10E0v10x31k40s30u50a30Z42p30Y40Z80Y40u30s30q80g81b50q20I0o20nD0h81o20aVI0"]⟩,
   ⟨["hexdigit", "hex"], ["m1975Q5Vva2975Q5"]⟩,
   ⟨["hyphen"], ["j10Y40Ze10ox40gZ21tr30vN0crs10j50u20"]⟩,
   ⟨["idsbinaryoperator", "idsb"], ["wsC129WG0"]⟩,
   ⟨["idstrinaryoperator", "idst"], ["ysC1"]⟩,
   ⟨["idsunaryoperator", "idsu"], ["ftC1"]⟩,
   ⟨["idcompatmathcontinue"], ["s5150wi803A1EzB040M0ses30P0V10P0V10P0V10P0V10P0"]⟩,
   ⟨["idcompatmathstart"], ["vW9040M0ses30P0V10P0V10P0V10P0V10P0"]⟩,
   ⟨["ideographic", "ideo"],
    ["ntC1P8E2ZV1ov6X2ZvLzqNtB2h3laV10Rxg68xd1f19oq9sCVlKWji1W1ze46Z72vz5EWt7FWKmm2jHnm1eZ55bg",
     "4"]⟩,
   ⟨["joincontrol", "joinc"], ["pl81"]⟩,
   ⟨["logicalorderexception", "loe"], ["qt34z34fx2220coc112011"]⟩,
   ⟨["modifiercombiningmark", "mcm"], ["dq1120c406031lF11230V10"]⟩,
   ⟨["noncharactercodepoint", "nchar"],
    ["Voa2V1zG1Vbb21Vbb21Vbb21Vbb21Vbb21Vbb21Vbb21Vbb21Vbb21Vbb21Vbb21Vbb21Vbb21Vbb21Vbb21Vbb2",
     "1"]⟩,
   ⟨["patternsyntax", "patsyn"],
    ["X1EA6Q310Q3Y1610111011404030N0V10td8N8E2I19v9bNa5eKUka1lGY4iC24OF0fos11i81"]⟩,
   ⟨["patternwhitespace", "patws"], ["94I0c30hh81O1"]⟩,
   ⟨["prependedconcatenationmark", "pcm"], ["mn15y60n10hC1n20xdd20F0"]⟩,
   ⟨["quotationmark", "qmark"], ["Y1040c40F0zf87P1vr30sE3D2cxs13Y6040x21"]⟩,
   ⟨["radical"], ["VhCP1v2Cw6"]⟩,
   ⟨["regionalindicator", "ri"], ["qod4P"]⟩,
   ⟨["sentenceterminal", "sterm"],
    ["X10C0G0ph10s42u50h12y70z101031j91xu11kP041yO0h61X51j1050ZA1iB3c51A121T2W61Y21XU0N192sg32",
     "w90D0M1vD0XaV10r81f7030fC1t21X30x41s42p41W80hwL021x1031j50C0G0Y20jx21bf14i13Y61t33Y42a41",
     "60G1v2111k30o91t31WC15Eh31W82qG010Y81u21mD1fM1h21qVK1e40Y21B0vH1m90ftK0zy70"]⟩,
   ⟨["softdotted", "sd"],
    ["h31f60X90U0q10K0fA0a3010sp60p10D030d40X50nD0x61jz20kvo31o11o11o11o11o11o11o11o11o11o11o1",
     "1o11hd20v91Q0"]⟩,
   ⟨["terminalpunctuation", "term"],
    ["X10A010B130tQ080mG0v10f20E012u50h1A10n71s1517V10i81xe11m5045WA1jP7yO0V42e21X5230d1321ZA1",
     "iB3c51A112T2W64V21XU0N192sg32w90D040A01131uD1WaV11q82f74fC1t21X30w42s42Y40G1W80hwL021v12",
     "13j50A010B130Y2020xY10m10gb10i60VA1x45b25w23rU4i13Y66o33Y42a4160G1v24k30o91t32C1mB33Eh31",
     "W82qG010Y81u2141gD2j10uK1h21qg14voI1e40Y22A0vH1l91ftK0yy73"]⟩,
   ⟨["unifiedideograph", "uideo"],
    ["ivDov6X2ZvLqzN11011A0101122dsc2Wji1W1ze46Z72vz5EWt7FWKoq4eZ55bg4"]⟩,
   ⟨["variationselector", "vs"], ["mh6210vcz1FYfoSr7"]⟩,
   ⟨["whitespace", "wspace", "space"], ["94I0c30Q0ou50il2AT150l10Wa40"]⟩]

/-- Properties of pictures. -/
def emojiTable : List Entry :=
  [⟨["emoji"],
    ["Z106059n3040mh80C0z60M0x25F1vB1C0g50PA42i60j71A090w1314902021204020112030318250105BB1201",
     "110I021I5101131502141B15120511011K155132040202510201010603060A1F02040104210B1m1290E0E0VC",
     "1yE2J1p1040Xe10C0hJ010dpu30l60a51C1E029i2P11N0K028L1o5X12n321122p2221j81V2B51N7127C02320",
     "41D120819052C28220104060306s2m1c257224930113029f7B40Z9k1191y5o3C395t17E2A68"]⟩,
   ⟨["emojicomponent", "ecomp"], ["Z106059uj80w60ixw10oyX2PgG4zk13uWjQX3"]⟩,
   ⟨["emojimodifier", "emod"], ["wae44"]⟩,
   ⟨["emojimodifierbase", "ebase"],
    ["sZA0X70G3mpy30y122022t312ALI3042127010O0k6140L041o5234q20G290B0mI02087609922u10z111110H2",
     "1Ch72g18"]⟩,
   ⟨["emojipresentation", "epres"],
    ["wf91o633020uG1L1o1Bh10J0D081H1518050L0711040207041S0Z10104210z12O0E0rR1p1040dnw30l60Z602",
     "9i2P10O0K02412L1o5W1C81c21LCg144CG303d2101V62V2D31NI0Q1D0t2r2m1c260322243B178f7B40Z9k119",
     "1y5o3C395t17E2A68"]⟩,
   ⟨["extendedpictographic", "extpict"],
    ["j5040mh80C0z60M0x25F1vB1C0X30d20PA42i60j71A090w13151B1p3At32A1010603060A1F02040104210B4j",
     "1290E0E0VC1yE2J1p1040Xe10C0hJ010Zpu3c8D2V10y15C1E029Iu1REA0K028139zD5cA8m8m1Y4s3Bs2g1C3u",
     "17A5e17Uo2Ck1191bEd8yW1"]⟩]

/-- Characters that change with case. -/
def caseChangeTable : List Entry :=
  [⟨["changeswhenlowercased", "cwl"],
    ["Y2Pd3M16X1010101010101010101010101010101010101010101010101010101020101010101010102010101",
     "0101010101010101010101010101010101010101110103110111223111231111010111020111210113071111",
     "1101010101010101020101010101010101021101210101010101010101010101010101010101010101010101",
     "010101010107111201310101010f90103080601210111G18Z108010101010101010101010105020112o1m101",
     "0101010101010101010101010101010901010101010101010101010101010101010101010101010101010111",
     "0101010101020101010101010101010101010101010101010101010101010101010101010101010101010101",
     "01010101010101010102b1bV3b11050eNs2ud206g122fA010101010101010101010101010101010101010101",
     "0101010101010101010101010101010101010101010101010101010101010101010101010101010101010101",
     "0101010101010101010901010101010101010101010101010101010101010101010101010101010101010101",
     "010101010101010101010101010109785A78785B010101087O7878784B4B3C4B4n903160j1FJ0hQPgx1l1m10",
     "1220101013102082101010101010101010101010101010101010101010101010101010101010101010101010",
     "10101010101010101010101010801040reW1010101010101010101010101010101010101010101010J010101",
     "010101010101010101010g401010101010103010101010101010101010101010101010101010101010101010",
     "1010101010A010111010101040102010301010101010101010101414101010101010101310113050101010O0",
     "vbNPhd1d1h4Z1W5A1E1611Yv1o1X5Lrz2V1XtMV1ppW1X1"]⟩,
   ⟨["changeswhenuppercased", "cwu"],
    ["Z3Pw10f1N1710101010101010101010101010101010101010101010101010101010201010101010101110101",
     "0101010101010101010101010101010101010101020101220102030502032202010102040203010203010511",
     "1111010101010101011101010101010101011111030101010101010101010101010101010101010103010101",
     "0101010101080211040101010151110113113142011207020113550A1g50h10103032I0RY111321010101010",
     "10101010101014102020q1l11010101010101010101010101010101010901010101010101010101010101010",
     "1010101010101010101010102010101010101110101010101010101010101010101010101010101010101010",
     "1010101010101010101010101010101010101010101010n1c1aV3g122lO5dd2810q7030G0q30101010101010",
     "1010101010101010101010101010101010101010101010101010101010101010101010101010101010101010",
     "1010101010101010101010101010101010101010101010165010101010101010101010101010101010101010",
     "1010101010101010101010101010101010101010101010101010101885A78785A7878D2q1114010321140332",
     "187A21140wA0X1F40bRPXy1l110311010106020A010101010101010101010101010101010101010101010101",
     "010101010101010101010101010101010101010101010101010801040Cb11050vcW101010101010101010101",
     "0101010101010101010101010J010101010101010101010101010g4010101010101030101010101010101010",
     "101010101010101010101010101010101010101010A010201010101040401120101010101010101010B01010",
     "101010101040102030501010Q0sR0Sm2jYL6C4gY1Ppd1d1h4Z1V5A1E1611xv1o1W4Lrz2V1XtMV1rpW1X1"]⟩]

/-- Characters that have a derived property although its rule passes them by. -/
def remainderTable : List Entry :=
  [⟨["otheralphabetic", "oalpha"],
    ["VR0TCnID10111110f2Am1C16G0d36432140Z10UFe3Ad31381213i30y1B366Js112E1152A1T2w162121A0A1T2",
     "w14412140U130B2w171211L1M242w16212191A1U0x143212A0e14v16121281B1T2w16121281B1F0C3w161212",
     "A0A1T2i251017I1z1026I0b302511G0d5I9A1Z1m3B1023N342122633DB10A3er11U1U1U1Z2IX61Y10u3B48a7",
     "4v192Jh21B2n14m1Ey12U821v1Ao1IeDX1tt1p1Vh2V1rXW17Y11iB080N4v21o1F10v10c14SBj13m1Bb10a2DC",
     "081j12o10122150i1450p77WYL0wb24wr121153iP3Y20gA1m20g82r1Dj11B2j1890z12a1BI1v12m1CE1z2820",
     "6020X59N3w162121A0A1r2810201311f3C12i3Hp7626T1p2E10i3Af3De8Cz7511213010n462540S9g1413IAk",
     "1DZD716q2L1Dy353011121030Z241113cB39110m1632xlHGps301s173V31aiK0ai961G261114c30ze20eY2P6",
     "P6P"]⟩,
   ⟨["otherdefaultignorablecodepoint", "odi"],
    ["fR0Ys31cq11re20fl40Xys10m28XmnS01TY3Y4s7Ys3"]⟩,
   ⟨["othergraphemeextend", "ogrext"],
    ["jn20O0mB0O0e30O0k7010411191f30O0v30F0Wj20U0WX10501051d30e21uX10be41gdW10k30XwM1qu40s30l8",
     "0E090Y3090201250c70C0t70j80iK0C0pn10dkL1syP165cttQX3"]⟩,
   ⟨["otheridcontinue", "oidc"], ["x50bN0Zc48xq10Zp11tk40mzs10"]⟩,
   ⟨["otheridstart", "oids"], ["kl61sd20L0gY41"]⟩,
   ⟨["otherlowercase", "olower"],
    ["k50F0aG871U4Y30q10ln30oc3V2D0Y1a1cM0D0GCu6FgRPlV21jlW11t60a4231yR390jlO0221f118lpv1z1"]⟩,
   ⟨["othermath", "omath"],
    ["W30iS220Q121dk70R2B0W13O1E1Y2C403144I04029103460312112153354i24231111101421414H211016106",
     "1g93i5110O0H0gE1C854512134E01025O1v1010T391WB1V19VDLW23W11xmu101040u6010ypu1r21d21120212",
     "31B10161X21327161R131410361yA2O1O1U1O1U1O1U1O1U1O172n1qv531Q1110201913101060401010121110",
     "201010101011102316131310191G52141G"]⟩,
   ⟨["otheruppercase", "oupper"], ["ow8FWRPuoy3P6P6P"]⟩]

/-- The properties that are written out. -/
def propertyTable : List Entry := signTable ++ emojiTable ++ caseChangeTable ++ remainderTable

end DeclAtlas.Character
