import Admissions.Text.Category

namespace Admissions

namespace Text

/-- The names of the scripts, in the order the script table counts them. -/
def scriptNameTable : String :=
  "Adlam,Ahom,Anatolian_Hieroglyphs,Arabic,Armenian,Avestan,Balinese,Bamum,Bassa_Vah,Batak,Bengali,Beria_Erfe" ++
  ",Bhaiksuki,Bopomofo,Brahmi,Braille,Buginese,Buhid,Canadian_Aboriginal,Carian,Caucasian_Albanian,Chakma,Cham,Cherokee" ++
  ",Chorasmian,Common,Coptic,Cuneiform,Cypriot,Cypro_Minoan,Cyrillic,Deseret,Devanagari,Dives_Akuru,Dogra,Duployan" ++
  ",Egyptian_Hieroglyphs,Elbasan,Elymaic,Ethiopic,Garay,Georgian,Glagolitic,Gothic,Grantha,Greek,Gujarati,Gunjala_Gondi" ++
  ",Gurmukhi,Gurung_Khema,Han,Hangul,Hanifi_Rohingya,Hanunoo,Hatran,Hebrew,Hiragana,Imperial_Aramaic,Inherited,Inscriptional_Pahlavi" ++
  ",Inscriptional_Parthian,Javanese,Kaithi,Kannada,Katakana,Kawi,Kayah_Li,Kharoshthi,Khitan_Small_Script,Khmer,Khojki,Khudawadi" ++
  ",Kirat_Rai,Lao,Latin,Lepcha,Limbu,Linear_A,Linear_B,Lisu,Lycian,Lydian,Mahajani,Makasar" ++
  ",Malayalam,Mandaic,Manichaean,Marchen,Masaram_Gondi,Medefaidrin,Meetei_Mayek,Mende_Kikakui,Meroitic_Cursive,Meroitic_Hieroglyphs,Miao,Modi" ++
  ",Mongolian,Mro,Multani,Myanmar,Nabataean,Nag_Mundari,Nandinagari,New_Tai_Lue,Newa,Nko,Nushu,Nyiakeng_Puachue_Hmong" ++
  ",Ogham,Ol_Chiki,Ol_Onal,Old_Hungarian,Old_Italic,Old_North_Arabian,Old_Permic,Old_Persian,Old_Sogdian,Old_South_Arabian,Old_Turkic,Old_Uyghur" ++
  ",Oriya,Osage,Osmanya,Pahawh_Hmong,Palmyrene,Pau_Cin_Hau,Phags_Pa,Phoenician,Psalter_Pahlavi,Rejang,Runic,Samaritan" ++
  ",Saurashtra,Sharada,Shavian,Siddham,Sidetic,SignWriting,Sinhala,Sogdian,Sora_Sompeng,Soyombo,Sundanese,Sunuwar" ++
  ",Syloti_Nagri,Syriac,Tagalog,Tagbanwa,Tai_Le,Tai_Tham,Tai_Viet,Tai_Yo,Takri,Tamil,Tangsa,Tangut" ++
  ",Telugu,Thaana,Thai,Tibetan,Tifinagh,Tirhuta,Todhri,Tolong_Siki,Toto,Tulu_Tigalari,Ugaritic,Unknown" ++
  ",Vai,Vithkuqi,Wancho,Warang_Citi,Yezidi,Yi,Zanabazar_Square"

def scriptNames : Array String := (scriptNameTable.splitOn ",").toArray

/-- The script of every code point, as runs `start.index`: the run starting at the
hexadecimal code point `start` has the script `index` of `scriptNames`, up to
the start of the next run. -/
def scriptTable : String :=
  "0.25,41.74,5b.25,61.74,7b.25,aa.74,ab.25,ba.74,bb.25,c0.74,d7.25,d8.74,f7.25,f8.74,2b9.25,2e0.74,2e5.25,2ea.13,2ec.25,300.58" ++
  ",370.45,374.25,375.45,378.167,37a.45,37e.25,37f.45,380.167,384.45,385.25,386.45,387.25,388.45,38b.167,38c.45,38d.167,38e.45,3a2.167,3a3.45,3e2.26" ++
  ",3f0.45,400.30,485.58,487.30,530.167,531.4,557.167,559.4,58b.167,58d.4,590.167,591.55,5c8.167,5d0.55,5eb.167,5ef.55,5f5.167,600.3,605.25,606.3" ++
  ",60c.25,60d.3,61b.25,61c.3,61f.25,620.3,640.25,641.3,64b.58,656.3,670.58,671.3,6dd.25,6de.3,700.145,70e.167,70f.145,74b.167,74d.145,750.3" ++
  ",780.157,7b2.167,7c0.105,7fb.167,7fd.105,800.131,82e.167,830.131,83f.167,840.85,85c.167,85e.85,85f.167,860.145,86b.167,870.3,892.167,897.3,8e2.25,8e3.3" ++
  ",900.32,951.58,955.32,964.25,966.32,980.10,984.167,985.10,98d.167,98f.10,991.167,993.10,9a9.167,9aa.10,9b1.167,9b2.10,9b3.167,9b6.10,9ba.167,9bc.10" ++
  ",9c5.167,9c7.10,9c9.167,9cb.10,9cf.167,9d7.10,9d8.167,9dc.10,9de.167,9df.10,9e4.167,9e6.10,9ff.167,a01.48,a04.167,a05.48,a0b.167,a0f.48,a11.167,a13.48" ++
  ",a29.167,a2a.48,a31.167,a32.48,a34.167,a35.48,a37.167,a38.48,a3a.167,a3c.48,a3d.167,a3e.48,a43.167,a47.48,a49.167,a4b.48,a4e.167,a51.48,a52.167,a59.48" ++
  ",a5d.167,a5e.48,a5f.167,a66.48,a77.167,a81.46,a84.167,a85.46,a8e.167,a8f.46,a92.167,a93.46,aa9.167,aaa.46,ab1.167,ab2.46,ab4.167,ab5.46,aba.167,abc.46" ++
  ",ac6.167,ac7.46,aca.167,acb.46,ace.167,ad0.46,ad1.167,ae0.46,ae4.167,ae6.46,af2.167,af9.46,b00.167,b01.120,b04.167,b05.120,b0d.167,b0f.120,b11.167,b13.120" ++
  ",b29.167,b2a.120,b31.167,b32.120,b34.167,b35.120,b3a.167,b3c.120,b45.167,b47.120,b49.167,b4b.120,b4e.167,b55.120,b58.167,b5c.120,b5e.167,b5f.120,b64.167,b66.120" ++
  ",b78.167,b82.153,b84.167,b85.153,b8b.167,b8e.153,b91.167,b92.153,b96.167,b99.153,b9b.167,b9c.153,b9d.167,b9e.153,ba0.167,ba3.153,ba5.167,ba8.153,bab.167,bae.153" ++
  ",bba.167,bbe.153,bc3.167,bc6.153,bc9.167,bca.153,bce.167,bd0.153,bd1.167,bd7.153,bd8.167,be6.153,bfb.167,c00.156,c0d.167,c0e.156,c11.167,c12.156,c29.167,c2a.156" ++
  ",c3a.167,c3c.156,c45.167,c46.156,c49.167,c4a.156,c4e.167,c55.156,c57.167,c58.156,c5b.167,c5c.156,c5e.167,c60.156,c64.167,c66.156,c70.167,c77.156,c80.63,c8d.167" ++
  ",c8e.63,c91.167,c92.63,ca9.167,caa.63,cb4.167,cb5.63,cba.167,cbc.63,cc5.167,cc6.63,cc9.167,cca.63,cce.167,cd5.63,cd7.167,cdc.63,cdf.167,ce0.63,ce4.167" ++
  ",ce6.63,cf0.167,cf1.63,cf4.167,d00.84,d0d.167,d0e.84,d11.167,d12.84,d45.167,d46.84,d49.167,d4a.84,d50.167,d54.84,d64.167,d66.84,d80.167,d81.138,d84.167" ++
  ",d85.138,d97.167,d9a.138,db2.167,db3.138,dbc.167,dbd.138,dbe.167,dc0.138,dc7.167,dca.138,dcb.167,dcf.138,dd5.167,dd6.138,dd7.167,dd8.138,de0.167,de6.138,df0.167" ++
  ",df2.138,df5.167,e01.158,e3b.167,e3f.25,e40.158,e5c.167,e81.73,e83.167,e84.73,e85.167,e86.73,e8b.167,e8c.73,ea4.167,ea5.73,ea6.167,ea7.73,ebe.167,ec0.73" ++
  ",ec5.167,ec6.73,ec7.167,ec8.73,ecf.167,ed0.73,eda.167,edc.73,ee0.167,f00.159,f48.167,f49.159,f6d.167,f71.159,f98.167,f99.159,fbd.167,fbe.159,fcd.167,fce.159" ++
  ",fd5.25,fd9.159,fdb.167,1000.99,10a0.41,10c6.167,10c7.41,10c8.167,10cd.41,10ce.167,10d0.41,10fb.25,10fc.41,1100.51,1200.39,1249.167,124a.39,124e.167,1250.39,1257.167" ++
  ",1258.39,1259.167,125a.39,125e.167,1260.39,1289.167,128a.39,128e.167,1290.39,12b1.167,12b2.39,12b6.167,12b8.39,12bf.167,12c0.39,12c1.167,12c2.39,12c6.167,12c8.39,12d7.167" ++
  ",12d8.39,1311.167,1312.39,1316.167,1318.39,135b.167,135d.39,137d.167,1380.39,139a.167,13a0.23,13f6.167,13f8.23,13fe.167,1400.18,1680.108,169d.167,16a0.130,16eb.25,16ee.130" ++
  ",16f9.167,1700.146,1716.167,171f.146,1720.53,1735.25,1737.167,1740.17,1754.167,1760.147,176d.167,176e.147,1771.167,1772.147,1774.167,1780.69,17de.167,17e0.69,17ea.167,17f0.69" ++
  ",17fa.167,1800.96,1802.25,1804.96,1805.25,1806.96,181a.167,1820.96,1879.167,1880.96,18ab.167,18b0.18,18f6.167,1900.76,191f.167,1920.76,192c.167,1930.76,193c.167,1940.76" ++
  ",1941.167,1944.76,1950.148,196e.167,1970.148,1975.167,1980.103,19ac.167,19b0.103,19ca.167,19d0.103,19db.167,19de.103,19e0.69,1a00.16,1a1c.167,1a1e.16,1a20.149,1a5f.167,1a60.149" ++
  ",1a7d.167,1a7f.149,1a8a.167,1a90.149,1a9a.167,1aa0.149,1aae.167,1ab0.58,1ade.167,1ae0.58,1aec.167,1b00.6,1b4d.167,1b4e.6,1b80.142,1bc0.9,1bf4.167,1bfc.9,1c00.75,1c38.167" ++
  ",1c3b.75,1c4a.167,1c4d.75,1c50.109,1c80.30,1c8b.167,1c90.41,1cbb.167,1cbd.41,1cc0.142,1cc8.167,1cd0.58,1cd3.25,1cd4.58,1ce1.25,1ce2.58,1ce9.25,1ced.58,1cee.25,1cf4.58" ++
  ",1cf5.25,1cf8.58,1cfa.25,1cfb.167,1d00.74,1d26.45,1d2b.30,1d2c.74,1d5d.45,1d62.74,1d66.45,1d6b.74,1d78.30,1d79.74,1dbf.45,1dc0.58,1e00.74,1f00.45,1f16.167,1f18.45" ++
  ",1f1e.167,1f20.45,1f46.167,1f48.45,1f4e.167,1f50.45,1f58.167,1f59.45,1f5a.167,1f5b.45,1f5c.167,1f5d.45,1f5e.167,1f5f.45,1f7e.167,1f80.45,1fb5.167,1fb6.45,1fc5.167,1fc6.45" ++
  ",1fd4.167,1fd6.45,1fdc.167,1fdd.45,1ff0.167,1ff2.45,1ff5.167,1ff6.45,1fff.167,2000.25,200c.58,200e.25,2065.167,2066.25,2071.74,2072.167,2074.25,207f.74,2080.25,208f.167" ++
  ",2090.74,209d.167,20a0.25,20c2.167,20d0.58,20f1.167,2100.25,2126.45,2127.25,212a.74,212c.25,2132.74,2133.25,214e.74,214f.25,2160.74,2189.25,218c.167,2190.25,242a.167" ++
  ",2440.25,244b.167,2460.25,2800.15,2900.25,2b74.167,2b76.25,2c00.42,2c60.74,2c80.26,2cf4.167,2cf9.26,2d00.41,2d26.167,2d27.41,2d28.167,2d2d.41,2d2e.167,2d30.160,2d68.167" ++
  ",2d6f.160,2d71.167,2d7f.160,2d80.39,2d97.167,2da0.39,2da7.167,2da8.39,2daf.167,2db0.39,2db7.167,2db8.39,2dbf.167,2dc0.39,2dc7.167,2dc8.39,2dcf.167,2dd0.39,2dd7.167,2dd8.39" ++
  ",2ddf.167,2de0.30,2e00.25,2e5e.167,2e80.50,2e9a.167,2e9b.50,2ef4.167,2f00.50,2fd6.167,2ff0.25,3005.50,3006.25,3007.50,3008.25,3021.50,302a.58,302e.51,3030.25,3038.50" ++
  ",303c.25,3040.167,3041.56,3097.167,3099.58,309b.25,309d.56,30a0.25,30a1.64,30fb.25,30fd.64,3100.167,3105.13,3130.167,3131.51,318f.167,3190.25,31a0.13,31c0.25,31e6.167" ++
  ",31ef.25,31f0.64,3200.51,321f.167,3220.25,3260.51,327f.25,32d0.64,32ff.25,3300.64,3358.25,3400.50,4dc0.25,4e00.50,a000.173,a48d.167,a490.173,a4c7.167,a4d0.79,a500.168" ++
  ",a62c.167,a640.30,a6a0.7,a6f8.167,a700.25,a722.74,a788.25,a78b.74,a7dd.167,a7f1.74,a800.144,a82d.167,a830.25,a83a.167,a840.126,a878.167,a880.132,a8c6.167,a8ce.132,a8da.167" ++
  ",a8e0.32,a900.66,a92e.25,a92f.66,a930.129,a954.167,a95f.129,a960.51,a97d.167,a980.61,a9ce.167,a9cf.25,a9d0.61,a9da.167,a9de.61,a9e0.99,a9ff.167,aa00.22,aa37.167,aa40.22" ++
  ",aa4e.167,aa50.22,aa5a.167,aa5c.22,aa60.99,aa80.150,aac3.167,aadb.150,aae0.90,aaf7.167,ab01.39,ab07.167,ab09.39,ab0f.167,ab11.39,ab17.167,ab20.39,ab27.167,ab28.39,ab2f.167" ++
  ",ab30.74,ab5b.25,ab5c.74,ab65.45,ab66.74,ab6a.25,ab6c.167,ab70.23,abc0.90,abee.167,abf0.90,abfa.167,ac00.51,d7a4.167,d7b0.51,d7c7.167,d7cb.51,d7fc.167,f900.50,fa6e.167" ++
  ",fa70.50,fada.167,fb00.74,fb07.167,fb13.4,fb18.167,fb1d.55,fb37.167,fb38.55,fb3d.167,fb3e.55,fb3f.167,fb40.55,fb42.167,fb43.55,fb45.167,fb46.55,fb50.3,fd3e.25,fd40.3" ++
  ",fdd0.167,fdf0.3,fe00.58,fe10.25,fe1a.167,fe20.58,fe2e.30,fe30.25,fe53.167,fe54.25,fe67.167,fe68.25,fe6c.167,fe70.3,fe75.167,fe76.3,fefd.167,feff.25,ff00.167,ff01.25" ++
  ",ff21.74,ff3b.25,ff41.74,ff5b.25,ff66.64,ff70.25,ff71.64,ff9e.25,ffa0.51,ffbf.167,ffc2.51,ffc8.167,ffca.51,ffd0.167,ffd2.51,ffd8.167,ffda.51,ffdd.167,ffe0.25,ffe7.167" ++
  ",ffe8.25,ffef.167,fff9.25,fffe.167,10000.78,1000c.167,1000d.78,10027.167,10028.78,1003b.167,1003c.78,1003e.167,1003f.78,1004e.167,10050.78,1005e.167,10080.78,100fb.167,10100.25,10103.167" ++
  ",10107.25,10134.167,10137.25,10140.45,1018f.167,10190.25,1019d.167,101a0.45,101a1.167,101d0.25,101fd.58,101fe.167,10280.80,1029d.167,102a0.19,102d1.167,102e0.58,102e1.25,102fc.167,10300.112" ++
  ",10324.167,1032d.112,10330.43,1034b.167,10350.114,1037b.167,10380.166,1039e.167,1039f.166,103a0.115,103c4.167,103c8.115,103d6.167,10400.31,10450.134,10480.122,1049e.167,104a0.122,104aa.167,104b0.121" ++
  ",104d4.167,104d8.121,104fc.167,10500.37,10528.167,10530.20,10564.167,1056f.20,10570.169,1057b.167,1057c.169,1058b.167,1058c.169,10593.167,10594.169,10596.167,10597.169,105a2.167,105a3.169,105b2.167" ++
  ",105b3.169,105ba.167,105bb.169,105bd.167,105c0.162,105f4.167,10600.77,10737.167,10740.77,10756.167,10760.77,10768.167,10780.74,10786.167,10787.74,107b1.167,107b2.74,107bb.167,10800.28,10806.167" ++
  ",10808.28,10809.167,1080a.28,10836.167,10837.28,10839.167,1083c.28,1083d.167,1083f.28,10840.57,10856.167,10857.57,10860.124,10880.100,1089f.167,108a7.100,108b0.167,108e0.54,108f3.167,108f4.54" ++
  ",108f6.167,108fb.54,10900.127,1091c.167,1091f.127,10920.81,1093a.167,1093f.81,10940.136,1095a.167,10980.93,109a0.92,109b8.167,109bc.92,109d0.167,109d2.92,10a00.67,10a04.167,10a05.67,10a07.167" ++
  ",10a0c.67,10a14.167,10a15.67,10a18.167,10a19.67,10a36.167,10a38.67,10a3b.167,10a3f.67,10a49.167,10a50.67,10a59.167,10a60.117,10a80.113,10aa0.167,10ac0.86,10ae7.167,10aeb.86,10af7.167,10b00.5" ++
  ",10b36.167,10b39.5,10b40.60,10b56.167,10b58.60,10b60.59,10b73.167,10b78.59,10b80.128,10b92.167,10b99.128,10b9d.167,10ba9.128,10bb0.167,10c00.118,10c49.167,10c80.111,10cb3.167,10cc0.111,10cf3.167" ++
  ",10cfa.111,10d00.52,10d28.167,10d30.52,10d3a.167,10d40.40,10d66.167,10d69.40,10d86.167,10d8e.40,10d90.167,10e60.3,10e7f.167,10e80.172,10eaa.167,10eab.172,10eae.167,10eb0.172,10eb2.167,10ec2.3" ++
  ",10ec8.167,10ed0.3,10ed9.167,10efa.3,10f00.116,10f28.167,10f30.139,10f5a.167,10f70.119,10f8a.167,10fb0.24,10fcc.167,10fe0.38,10ff7.167,11000.14,1104e.167,11052.14,11076.167,1107f.14,11080.62" ++
  ",110c3.167,110cd.62,110ce.167,110d0.140,110e9.167,110f0.140,110fa.167,11100.21,11135.167,11136.21,11148.167,11150.82,11177.167,11180.133,111e0.167,111e1.138,111f5.167,11200.70,11212.167,11213.70" ++
  ",11242.167,11280.98,11287.167,11288.98,11289.167,1128a.98,1128e.167,1128f.98,1129e.167,1129f.98,112aa.167,112b0.71,112eb.167,112f0.71,112fa.167,11300.44,11304.167,11305.44,1130d.167,1130f.44" ++
  ",11311.167,11313.44,11329.167,1132a.44,11331.167,11332.44,11334.167,11335.44,1133a.167,1133b.58,1133c.44,11345.167,11347.44,11349.167,1134b.44,1134e.167,11350.44,11351.167,11357.44,11358.167" ++
  ",1135d.44,11364.167,11366.44,1136d.167,11370.44,11375.167,11380.165,1138a.167,1138b.165,1138c.167,1138e.165,1138f.167,11390.165,113b6.167,113b7.165,113c1.167,113c2.165,113c3.167,113c5.165,113c6.167" ++
  ",113c7.165,113cb.167,113cc.165,113d6.167,113d7.165,113d9.167,113e1.165,113e3.167,11400.104,1145c.167,1145d.104,11462.167,11480.161,114c8.167,114d0.161,114da.167,11580.135,115b6.167,115b8.135,115de.167" ++
  ",11600.95,11645.167,11650.95,1165a.167,11660.96,1166d.167,11680.152,116ba.167,116c0.152,116ca.167,116d0.99,116e4.167,11700.1,1171b.167,1171d.1,1172c.167,11730.1,11747.167,11800.34,1183c.167" ++
  ",118a0.171,118f3.167,118ff.171,11900.33,11907.167,11909.33,1190a.167,1190c.33,11914.167,11915.33,11917.167,11918.33,11936.167,11937.33,11939.167,1193b.33,11947.167,11950.33,1195a.167,119a0.102" ++
  ",119a8.167,119aa.102,119d8.167,119da.102,119e5.167,11a00.174,11a48.167,11a50.141,11aa3.167,11ab0.18,11ac0.125,11af9.167,11b00.32,11b0a.167,11b60.133,11b68.167,11bc0.143,11be2.167,11bf0.143,11bfa.167" ++
  ",11c00.12,11c09.167,11c0a.12,11c37.167,11c38.12,11c46.167,11c50.12,11c6d.167,11c70.87,11c90.167,11c92.87,11ca8.167,11ca9.87,11cb7.167,11d00.88,11d07.167,11d08.88,11d0a.167,11d0b.88,11d37.167" ++
  ",11d3a.88,11d3b.167,11d3c.88,11d3e.167,11d3f.88,11d48.167,11d50.88,11d5a.167,11d60.47,11d66.167,11d67.47,11d69.167,11d6a.47,11d8f.167,11d90.47,11d92.167,11d93.47,11d99.167,11da0.47,11daa.167" ++
  ",11db0.163,11ddc.167,11de0.163,11dea.167,11ee0.83,11ef9.167,11f00.65,11f11.167,11f12.65,11f3b.167,11f3e.65,11f5b.167,11fb0.79,11fb1.167,11fc0.153,11ff2.167,11fff.153,12000.27,1239a.167,12400.27" ++
  ",1246f.167,12470.27,12475.167,12480.27,12544.167,12f90.29,12ff3.167,13000.36,13456.167,13460.36,143fb.167,14400.2,14647.167,16100.49,1613a.167,16800.7,16a39.167,16a40.97,16a5f.167,16a60.97" ++
  ",16a6a.167,16a6e.97,16a70.154,16abf.167,16ac0.154,16aca.167,16ad0.8,16aee.167,16af0.8,16af6.167,16b00.123,16b46.167,16b50.123,16b5a.167,16b5b.123,16b62.167,16b63.123,16b78.167,16b7d.123,16b90.167" ++
  ",16d40.72,16d7a.167,16e40.89,16e9b.167,16ea0.11,16eb9.167,16ebb.11,16ed4.167,16f00.94,16f4b.167,16f4f.94,16f88.167,16f8f.94,16fa0.167,16fe0.155,16fe1.106,16fe2.50,16fe4.68,16fe5.167,16ff0.50" ++
  ",16ff7.167,17000.155,18b00.68,18cd6.167,18cff.68,18d00.155,18d1f.167,18d80.155,18df3.167,1aff0.64,1aff4.167,1aff5.64,1affc.167,1affd.64,1afff.167,1b000.64,1b001.56,1b120.64,1b123.167,1b132.56" ++
  ",1b133.167,1b150.56,1b153.167,1b155.64,1b156.167,1b164.64,1b168.167,1b170.106,1b2fc.167,1bc00.35,1bc6b.167,1bc70.35,1bc7d.167,1bc80.35,1bc89.167,1bc90.35,1bc9a.167,1bc9c.35,1bca0.25,1bca4.167" ++
  ",1cc00.25,1ccfd.167,1cd00.25,1ceb4.167,1ceba.25,1ced1.167,1cee0.25,1cef1.167,1cf00.58,1cf2e.167,1cf30.58,1cf47.167,1cf50.25,1cfc4.167,1d000.25,1d0f6.167,1d100.25,1d127.167,1d129.25,1d167.58" ++
  ",1d16a.25,1d17b.58,1d183.25,1d185.58,1d18c.25,1d1aa.58,1d1ae.25,1d1eb.167,1d200.45,1d246.167,1d2c0.25,1d2d4.167,1d2e0.25,1d2f4.167,1d300.25,1d357.167,1d360.25,1d379.167,1d400.25,1d455.167" ++
  ",1d456.25,1d49d.167,1d49e.25,1d4a0.167,1d4a2.25,1d4a3.167,1d4a5.25,1d4a7.167,1d4a9.25,1d4ad.167,1d4ae.25,1d4ba.167,1d4bb.25,1d4bc.167,1d4bd.25,1d4c4.167,1d4c5.25,1d506.167,1d507.25,1d50b.167" ++
  ",1d50d.25,1d515.167,1d516.25,1d51d.167,1d51e.25,1d53a.167,1d53b.25,1d53f.167,1d540.25,1d545.167,1d546.25,1d547.167,1d54a.25,1d551.167,1d552.25,1d6a6.167,1d6a8.25,1d7cc.167,1d7ce.25,1d800.137" ++
  ",1da8c.167,1da9b.137,1daa0.167,1daa1.137,1dab0.167,1df00.74,1df1f.167,1df25.74,1df2b.167,1e000.42,1e007.167,1e008.42,1e019.167,1e01b.42,1e022.167,1e023.42,1e025.167,1e026.42,1e02b.167,1e030.30" ++
  ",1e06e.167,1e08f.30,1e090.167,1e100.107,1e12d.167,1e130.107,1e13e.167,1e140.107,1e14a.167,1e14e.107,1e150.167,1e290.164,1e2af.167,1e2c0.170,1e2fa.167,1e2ff.170,1e300.167,1e4d0.101,1e4fa.167,1e5d0.110" ++
  ",1e5fb.167,1e5ff.110,1e600.167,1e6c0.151,1e6df.167,1e6e0.151,1e6f6.167,1e6fe.151,1e700.167,1e7e0.39,1e7e7.167,1e7e8.39,1e7ec.167,1e7ed.39,1e7ef.167,1e7f0.39,1e7ff.167,1e800.91,1e8c5.167,1e8c7.91" ++
  ",1e8d7.167,1e900.0,1e94c.167,1e950.0,1e95a.167,1e95e.0,1e960.167,1ec71.25,1ecb5.167,1ed01.25,1ed3e.167,1ee00.3,1ee04.167,1ee05.3,1ee20.167,1ee21.3,1ee23.167,1ee24.3,1ee25.167,1ee27.3" ++
  ",1ee28.167,1ee29.3,1ee33.167,1ee34.3,1ee38.167,1ee39.3,1ee3a.167,1ee3b.3,1ee3c.167,1ee42.3,1ee43.167,1ee47.3,1ee48.167,1ee49.3,1ee4a.167,1ee4b.3,1ee4c.167,1ee4d.3,1ee50.167,1ee51.3" ++
  ",1ee53.167,1ee54.3,1ee55.167,1ee57.3,1ee58.167,1ee59.3,1ee5a.167,1ee5b.3,1ee5c.167,1ee5d.3,1ee5e.167,1ee5f.3,1ee60.167,1ee61.3,1ee63.167,1ee64.3,1ee65.167,1ee67.3,1ee6b.167,1ee6c.3" ++
  ",1ee73.167,1ee74.3,1ee78.167,1ee79.3,1ee7d.167,1ee7e.3,1ee7f.167,1ee80.3,1ee8a.167,1ee8b.3,1ee9c.167,1eea1.3,1eea4.167,1eea5.3,1eeaa.167,1eeab.3,1eebc.167,1eef0.3,1eef2.167,1f000.25" ++
  ",1f02c.167,1f030.25,1f094.167,1f0a0.25,1f0af.167,1f0b1.25,1f0c0.167,1f0c1.25,1f0d0.167,1f0d1.25,1f0f6.167,1f100.25,1f1ae.167,1f1e6.25,1f200.56,1f201.25,1f203.167,1f210.25,1f23c.167,1f240.25" ++
  ",1f249.167,1f250.25,1f252.167,1f260.25,1f266.167,1f300.25,1f6d9.167,1f6dc.25,1f6ed.167,1f6f0.25,1f6fd.167,1f700.25,1f7da.167,1f7e0.25,1f7ec.167,1f7f0.25,1f7f1.167,1f800.25,1f80c.167,1f810.25" ++
  ",1f848.167,1f850.25,1f85a.167,1f860.25,1f888.167,1f890.25,1f8ae.167,1f8b0.25,1f8bc.167,1f8c0.25,1f8c2.167,1f8d0.25,1f8d9.167,1f900.25,1fa58.167,1fa60.25,1fa6e.167,1fa70.25,1fa7d.167,1fa80.25" ++
  ",1fa8b.167,1fa8e.25,1fac7.167,1fac8.25,1fac9.167,1facd.25,1fadd.167,1fadf.25,1faeb.167,1faef.25,1faf9.167,1fb00.25,1fb93.167,1fb94.25,1fbfb.167,20000.50,2a6e0.167,2a700.50,2b81e.167,2b820.50" ++
  ",2ceae.167,2ceb0.50,2ebe1.167,2ebf0.50,2ee5e.167,2f800.50,2fa1e.167,30000.50,3134b.167,31350.50,3347a.167,e0001.25,e0002.167,e0020.25,e0080.167,e0100.58,e01f0.167,110000.167"

/-- Splits a run of the script table into its start and its script's name. -/
def splitScriptRun (r : String) : String × String :=
  match r.splitOn "." with
  | [start, index] => (start, (scriptNames[index.toNat?.getD 0]?).getD "Unknown")
  | _ => (r, "Unknown")

def scriptRuns : Array (Nat × String) := readStarts scriptTable splitScriptRun

def scriptOf (v : Nat) : String := runValue scriptRuns v

def isScriptName (name : String) : Bool := name != "Unknown" && scriptNames.contains name

end Text

end Admissions
