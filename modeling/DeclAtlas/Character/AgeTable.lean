import DeclAtlas.Character.Table

/-!
# The ages of characters

The version of Unicode that introduced a character, oldest first.
-/

namespace DeclAtlas.Character

/-- The characters that each version added, the oldest version first. -/
def ageTable : List Entry :=
  [⟨["1.1", "v11"],
    ["0aG4Tu1v27k119Mc2Q1I1403056101J1h116301010101HDB1Y21B1e19q121213R2721t1b1261c110c1918CQ5",
     "4N0E0301P5IDD2e2241E1T29sG21q12H243OG217212L161033201621229041142K7025412L16111111201441",
     "22B3107EC21610121L16111429121220F059H217212L1611232731228141124AH11532133110113132371244",
     "321390FBE217121M1914461213719149I117121M191446121371701149I117121M1F452213908149q4v14Sb1",
     "1102110206316121010211C122410152921lEb1Ac1404w25a25o2eb3z45w26L252b125271010101U2q11E1D2",
     "51I22181k11MZ163QHAb1HUu1Ql1Dx2Lt7E01w3e4a1RALj4Lu4Am2GJ6s2q43132R1Y11013301626EU3N1Dab2",
     "t1701q2452V36d14V31FY3S3Z1SR3n1FB4k11u34a32Usx6csLiZHaz6t66C46O141011111j3X1sBGW22r1e1Ba",
     "13CK491I1342101f4201V32V3352525223616E2"]⟩,
   ⟨["2.0", "v20"],
    ["zj1G1CK0cj2e21W17Q45101K3610wy30VH0nYb1goBeyl21Vbb21Vbb21Vbb21Vbb21Vbb21Vbb21Vbb21Vbb21V",
     "bb21Vbb21Vbb21Vbb21Vbb2ahh4"]⟩,
   ⟨["2.1", "v21"], ["uq80Ykx10"]⟩,
   ⟨["3.0", "v30"],
    ["bG3U72Ht34n10A4u28J0s3030101010U0C0Z20C0g1123z21W50j62a3150F0g141D1T3Qr1m1Wm111H3N181026",
     "30451017I2WC0h10N270121E20m1X1141116336PoD61V210132610132c110132U101326101326161M1U10132",
     "61c11I6RZ1r2CeK9S3n2o4z239ME196u28f1YV20O5X32o11s21f20f38q80x301Tj41sE7X10t21vCc8ij1P1v2",
     "Cw6QBy1230hBNvIev6mxLmb13H2F1B1210zzM0Ye12"]⟩,
   ⟨["3.1", "v31"],
    ["pW11emZ2V1uf1U13CQv5b12b1Zds1x7Ac13t5oHr21d2112021231B1013111X21327161R131410361wA4f94n1",
     "fpAsii1coLjHfrcO0UX3"]⟩,
   ⟨["3.2", "v32"],
    ["mH0s90JCg31S0s41v112121n1FeB1gA0mj21tn1C16BM9JCC1211wf20644074D0V21o16p2Ei5Bu7DV40Up1a9J",
     "w49v27M1x2B29a7Dx2R4Fd8kGbh12u2181W30s7Fo2Eo2EjfU1G0C030gsMw1jT03Fr11i10n71"]⟩,
   ⟨["4.0", "v40"],
    ["nH0I2v31W2Gn2752w44pG398X22u41F0j12T2XE0y50a2010h40r22D0a20x10a47c61vy20I9j8S3B4B403f124",
     "j3V1tOj3zN1i70dL1s90x81s37E1Xa1Dew11n10h11l23h53b31V10pv6W2fwk10g21aEB1P1I111E2DY1y3524i",
     "138nIT10f41c1m229mR5201h1113020fVs1t2qB0ZZtQr7"]⟩,
   ⟨["4.1", "v41"],
    ["eIAz84Z53y71k50Y12a20I0w15t7TVH0n20rF0l10eW11l9110n80W20W20d10V10V10V10F0d10N1V1Prm1f16P",
     "6941W1R21cRu2bL116n14T3r10n20F0tKAjI0d31IA5Fr86XR5o7k11k1X1i3Ei1Ar190GM9616161616161616X",
     "1N41VUFo50hXTLVy1Ml7h1gxLh3lQ9VQh2bHZ14Dxo131157121Q424888sar1c2Xa11"]⟩,
   ⟨["5.0", "v50"],
    ["pIDp92wA0g15G3g50qGw1hC111yR1D1Ws3i24i1uI6p11ZO3V31r10fJBWN0x83ZR653bAC73opW1351c9t1arPP",
     "50xX6fSq4a3D3lnk1HwZ11"]⟩,
   ⟨["5.1", "v51"],
    ["hS321u20x50l4Fe74B4W14s9HWG1a70Z10p60T1k30k30Q181K7Y6060T1C536vF1Z3032k2050207245QW241hZ",
     "20hNg13Bd2t13E3o1qARv53x25kB0k40W30r13yf10L933l80V13aQ44e134W921245iBV1O32IpO0c5JYdT7ch1",
     "p9KV12H8Rc442i3m34Z4b29Bc1q2B0a5s19D2923seM2aSBq1j1b4S3m1Yq1P50wcr10pb8h14b3"]⟩,
   ⟨["5.2", "v52"],
    ["jg11mNj12Ec60k2060Z11Z40em13c63X64b24p25lG0fK8XIc2u51k10c2V21S2A696DoHY1n80jM2w42s10mJ0g",
     "M1T2491I104Nu20yW14z80D1j36eA0oX1BwZT7if1l1iDu2XA9g5Rc3S3k21A41Z4R4Z2O4c7j129zoBM4m1ga92",
     "Zq3L18V61jAV1Z4r13S2Q57Z4f2dHUmGY2Vf8lY1deo1A5U20B0102030348070P01120A320n30FX1E8gZm1ue4"]⟩,
   ⟨["6.0", "v60"],
    ["lg11V80V20kFR20X71J061R4fG5zD0G0J0kI3g21zS1bc2p183hG0iL7S0eQAmN0J013T041S0Z10104291q12O0",
     "E0E1jk10E0vY12dXV11p9111E9n20zO525259616wiLFah5k24TYfNfIcnI1obHE2D2E1En201A1011121257161",
     "9681021194119i2P11l18L1o5W1F51c23JCa114LGFV2101v5133z1INs441F1210101012152310231B4Am1c2w",
     "1r3wXp1Z7"]⟩,
   ⟨["6.1", "v61"],
    ["xj10s30lL01At1QWG0iW11rF050l12Yv22C5d87h13iw2010jg11p1050u11l69ucU0ys17Z10u71M0k21yNMaYL",
     "1jX4t161fw1O796q11Dy1f279hc1t189jkNb2Bk1GGopX131Q111020191310106040101012111020101010101",
     "1102316131310191G52141Gq11hK1oV13X60G0301010103061401140"]⟩,
   ⟨["6.2", "v62"], ["dr80"]⟩,
   ⟨["6.3", "v63"], ["jo10XV73"]⟩,
   ⟨["7.0", "v70"],
    ["wS0qD7V31u30lL0B5j20w3070oK0p10j20Y40g79gh27qH1yCEgI1p7EwM2lQ6yO0kZ12AP2V12X13B17yJ6rWW1",
     "5y7BB221c20sFUW43q5l141hWM6tR1J0eARZ10m1g1mCd18p1B0p4VA9LA7V8V288zEV1W1c14Bi4H73C6rd10r6",
     "c1t20C06JBH1g1q3w1597217212L16111428212290562634o8e289g5r12Hs1b2B9tIp2C0jEu1wc2f1l6B50gn",
     "IU1941Y3T25Ac2A9161K5IdiLi35C387927XmBf62FeY20W1LL1aHB90d20MBb10535BH6e2010w5041W2146TH1",
     "e11s2d21Dl1d29GC33l4r2h1B4t1896d18T"]⟩,
   ⟨["8.0", "v80"],
    ["ve21k10bH0gB0h80gs1025eh30m61qs23uvU8Vu10s70Y15jA1qJ3Cm2ryL1dv2I1154X612F2j1pKo1Do175ld1",
     "3E4a5610131E1At20m20iKJg9P3E4Fzd30i7e6ua8tIsab1Aeo1VLF41Ecl62l21m24a17c80i24v71k40mI8f34",
     "x10Yro1vz5"]⟩,
   ⟨["9.0", "v90"],
    ["ye27MEvT0p604216N2YV48yB0ln13tr21ofW10z80ZpN1vPZ14Z1kl30kEw21010nGCWk181i11DAS3V12L1DsZM",
     "0V1mg6JfOgpM61G261114yf2h25941za2Hn40tQ0f10q91X12oH517802B1B4Ec1C"]⟩,
   ⟨["10.0", "v100"],
    ["ac2AyC1Z85lG0w11wa40b83wM0uQ0nX20bK4wN0tjTKqiQ2hX6e28p12M14lJ6111h130111889lzL0mXHa9o2sC",
     "kwG5ma11Y11sGBJ08711P0ICc15u1Mbqu1Wt7"]⟩,
   ⟨["11.0", "v110"],
    ["hi10d10e30yG2u60o90v30uC0Y40qa30tX1g122qz32MO4EyI4sN0ikT4zW2081jA1rwP1I0iMd189pEd18f1zB0",
     "u32ZG0g90mM0h7x1pJ0tM5111a1111579VAOqYLx2Ys64tyJJX46bp6a2za10tl10X73VC2S4233013OAD971a1O",
     "Y3D"]⟩,
   ⟨["12.0", "v120"],
    ["ye30zG020201540707120D0pt30dy30r10XJ0pfW1524xT1qsQMha10gJ0zN72j12AZ51ah1n1D0rg58orF540l1",
     "8x21ph65iVB2H3WqCi13D2941wBv150zp10oUy1lY10pi10a10h7Bf92l10n1090f1531A53722m1q2S34252D5"]⟩,
   ⟨["12.1", "v121"], ["ZnD0"]⟩,
   ⟨["13.0", "v130"],
    ["bf29XL0wD0V40fl31Wk40jM2ZS4xi79rwLCfX23g11r10qQ3syM0ii3f11221b8RcC0f41zK051Zc162027111T1",
     "12B99fq10egL0B1Vb7mFg18yoQ2V32z10ng11Z11WE1x20d3041g1162T0i50E3FI7692D6f1r41s1b19Vlj16Xs",
     "NeZ5"]⟩,
   ⟨["14.0", "v140"],
    ["ko10aJU1167L0IAaS0W10Y40Yr207090r70cMDW40m11kK0wM0hW30l10YGAedU2VX21E11014O2WfM0eCFY40k1",
     "1iz1A1E16111A1E1611mE51f118pW2Pi75j20cn10f46aSFwl5a3VnFl219WiI31611e93oy7j12M9r3rH1Wk3Ui",
     "SUwg1613111Ety32t80pC0p20o51i13A382H26786ntj11wf43"]⟩,
   ⟨["15.0", "v150"],
    ["yi30eF0mcb22uQ2bf29rW1G1e13RWm509SYdX10Y10yw8Jrd35i8z1X10YZ1f1qs40w4244w20lL2F1a12B210E1",
     "A1C0E1nZo10jlObg4"]⟩,
   ⟨["15.1", "v151"], ["dtC3zF0Zyz5WK"]⟩,
   ⟨["16.0", "v160"],
    ["yd20lz41l10m81vV22gp31nhV12C2fVPp1dy1b13S81w92t10db1910201b119102013191181aOJZe1X1E9wR0n",
     "n5vZ4pr7v1eb3v1eh80dtGW86WEvZ6g140hz4941qE050k1070L02090d7a1"]⟩]

end DeclAtlas.Character
