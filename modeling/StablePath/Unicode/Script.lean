import StablePath.Unicode.Runs

/-!
Scripts.

A script is named by its four-letter code. Most characters belong to one script; those used with
several have a set of scripts instead, their script extensions.
-/

namespace StablePath.Unicode

/-- The script of every code point, from the first to the last; `Zzzz` where there is none. -/
def scriptTable : String :=
  "Zyyy65 Latn26 Zyyy6 Latn26 Zyyy47 Latn Zyyy15 Latn Zyyy5 Latn23 Zyyy Latn31 Zyyy Latn449
   Zyyy39 Latn5 Zyyy5 Bopo2 Zyyy20 Zinh112 Grek4 Zyyy Grek3 Zzzz2 Grek4 Zyyy Grek Zzzz4 Grek Zyyy
   Grek Zyyy Grek3 Zzzz Grek Zzzz Grek20 Zzzz Grek63 Copt14 Grek16 Cyrl133 Zinh2 Cyrl169 Zzzz
   Armn38 Zzzz2 Armn50 Zzzz2 Armn3 Zzzz Hebr55 Zzzz8 Hebr27 Zzzz4 Hebr6 Zzzz11 Arab5 Zyyy Arab6
   Zyyy Arab14 Zyyy Arab3 Zyyy Arab32 Zyyy Arab10 Zinh11 Arab26 Zinh Arab108 Zyyy Arab34 Syrc14
   Zzzz Syrc60 Zzzz2 Syrc3 Arab48 Thaa50 Zzzz14 Nkoo59 Zzzz2 Nkoo3 Samr46 Zzzz2 Samr15 Zzzz
   Mand28 Zzzz2 Mand Zzzz Syrc11 Zzzz5 Arab34 Zzzz5 Arab75 Zyyy Arab29 Deva81 Zinh4 Deva15 Zyyy2
   Deva26 Beng4 Zzzz Beng8 Zzzz2 Beng2 Zzzz2 Beng22 Zzzz Beng7 Zzzz Beng Zzzz3 Beng4 Zzzz2 Beng9
   Zzzz2 Beng2 Zzzz2 Beng4 Zzzz8 Beng Zzzz4 Beng2 Zzzz Beng5 Zzzz2 Beng25 Zzzz2 Guru3 Zzzz Guru6
   Zzzz4 Guru2 Zzzz2 Guru22 Zzzz Guru7 Zzzz Guru2 Zzzz Guru2 Zzzz Guru2 Zzzz2 Guru Zzzz Guru5
   Zzzz4 Guru2 Zzzz2 Guru3 Zzzz3 Guru Zzzz7 Guru4 Zzzz Guru Zzzz7 Guru17 Zzzz10 Gujr3 Zzzz Gujr9
   Zzzz Gujr3 Zzzz Gujr22 Zzzz Gujr7 Zzzz Gujr2 Zzzz Gujr5 Zzzz2 Gujr10 Zzzz Gujr3 Zzzz Gujr3
   Zzzz2 Gujr Zzzz15 Gujr4 Zzzz2 Gujr12 Zzzz7 Gujr7 Zzzz Orya3 Zzzz Orya8 Zzzz2 Orya2 Zzzz2
   Orya22 Zzzz Orya7 Zzzz Orya2 Zzzz Orya5 Zzzz2 Orya9 Zzzz2 Orya2 Zzzz2 Orya3 Zzzz7 Orya3 Zzzz4
   Orya2 Zzzz Orya5 Zzzz2 Orya18 Zzzz10 Taml2 Zzzz Taml6 Zzzz3 Taml3 Zzzz Taml4 Zzzz3 Taml2 Zzzz
   Taml Zzzz Taml2 Zzzz3 Taml2 Zzzz3 Taml3 Zzzz3 Taml12 Zzzz4 Taml5 Zzzz3 Taml3 Zzzz Taml4 Zzzz2
   Taml Zzzz6 Taml Zzzz14 Taml21 Zzzz5 Telu13 Zzzz Telu3 Zzzz Telu23 Zzzz Telu16 Zzzz2 Telu9 Zzzz
   Telu3 Zzzz Telu4 Zzzz7 Telu2 Zzzz Telu3 Zzzz Telu2 Zzzz2 Telu4 Zzzz2 Telu10 Zzzz7 Telu9 Knda13
   Zzzz Knda3 Zzzz Knda23 Zzzz Knda10 Zzzz Knda5 Zzzz2 Knda9 Zzzz Knda3 Zzzz Knda4 Zzzz7 Knda2
   Zzzz5 Knda3 Zzzz Knda4 Zzzz2 Knda10 Zzzz Knda3 Zzzz12 Mlym13 Zzzz Mlym3 Zzzz Mlym51 Zzzz Mlym3
   Zzzz Mlym6 Zzzz4 Mlym16 Zzzz2 Mlym26 Zzzz Sinh3 Zzzz Sinh18 Zzzz3 Sinh24 Zzzz Sinh9 Zzzz Sinh
   Zzzz2 Sinh7 Zzzz3 Sinh Zzzz4 Sinh6 Zzzz Sinh Zzzz Sinh8 Zzzz6 Sinh10 Zzzz2 Sinh3 Zzzz12 Thai58
   Zzzz4 Zyyy Thai28 Zzzz37 Laoo2 Zzzz Laoo Zzzz Laoo5 Zzzz Laoo24 Zzzz Laoo Zzzz Laoo23 Zzzz2
   Laoo5 Zzzz Laoo Zzzz Laoo7 Zzzz Laoo10 Zzzz2 Laoo4 Zzzz32 Tibt72 Zzzz Tibt36 Zzzz4 Tibt39 Zzzz
   Tibt36 Zzzz Tibt15 Zzzz Tibt7 Zyyy4 Tibt2 Zzzz37 Mymr160 Geor38 Zzzz Geor Zzzz5 Geor Zzzz2
   Geor43 Zyyy Geor4 Hang256 Ethi73 Zzzz Ethi4 Zzzz2 Ethi7 Zzzz Ethi Zzzz Ethi4 Zzzz2 Ethi41 Zzzz
   Ethi4 Zzzz2 Ethi33 Zzzz Ethi4 Zzzz2 Ethi7 Zzzz Ethi Zzzz Ethi4 Zzzz2 Ethi15 Zzzz Ethi57 Zzzz
   Ethi4 Zzzz2 Ethi67 Zzzz2 Ethi32 Zzzz3 Ethi26 Zzzz6 Cher86 Zzzz2 Cher6 Zzzz2 Cans640 Ogam29
   Zzzz3 Runr75 Zyyy3 Runr11 Zzzz7 Tglg22 Zzzz9 Tglg Hano21 Zyyy2 Zzzz9 Buhd20 Zzzz12 Tagb13 Zzzz
   Tagb3 Zzzz Tagb2 Zzzz12 Khmr94 Zzzz2 Khmr10 Zzzz6 Khmr10 Zzzz6 Mong2 Zyyy2 Mong Zyyy Mong20
   Zzzz6 Mong89 Zzzz7 Mong43 Zzzz5 Cans70 Zzzz10 Limb31 Zzzz Limb12 Zzzz4 Limb12 Zzzz4 Limb Zzzz3
   Limb12 Tale30 Zzzz2 Tale5 Zzzz11 Talu44 Zzzz4 Talu26 Zzzz6 Talu11 Zzzz3 Talu2 Khmr32 Bugi28
   Zzzz2 Bugi2 Lana63 Zzzz Lana29 Zzzz2 Lana11 Zzzz6 Lana10 Zzzz6 Lana14 Zzzz2 Zinh46 Zzzz2
   Zinh12 Zzzz20 Bali77 Zzzz Bali50 Sund64 Batk52 Zzzz8 Batk4 Lepc56 Zzzz3 Lepc15 Zzzz3 Lepc3
   Olck48 Cyrl11 Zzzz5 Geor43 Zzzz2 Geor3 Sund8 Zzzz8 Zinh3 Zyyy Zinh13 Zyyy Zinh7 Zyyy4 Zinh
   Zyyy6 Zinh Zyyy3 Zinh2 Zyyy Zzzz5 Latn38 Grek5 Cyrl Latn49 Grek5 Latn4 Grek5 Latn13 Cyrl
   Latn70 Grek Zinh64 Latn256 Grek22 Zzzz2 Grek6 Zzzz2 Grek38 Zzzz2 Grek6 Zzzz2 Grek8 Zzzz Grek
   Zzzz Grek Zzzz Grek Zzzz Grek31 Zzzz2 Grek53 Zzzz Grek15 Zzzz Grek14 Zzzz2 Grek6 Zzzz Grek19
   Zzzz2 Grek3 Zzzz Grek9 Zzzz Zyyy12 Zinh2 Zyyy87 Zzzz Zyyy11 Latn Zzzz2 Zyyy11 Latn Zyyy15 Zzzz
   Latn13 Zzzz3 Zyyy34 Zzzz14 Zinh33 Zzzz15 Zyyy38 Grek Zyyy3 Latn2 Zyyy6 Latn Zyyy27 Latn Zyyy17
   Latn41 Zyyy3 Zzzz4 Zyyy666 Zzzz22 Zyyy11 Zzzz21 Zyyy928 Brai256 Zyyy628 Zzzz2 Zyyy138 Glag96
   Latn32 Copt116 Zzzz5 Copt7 Geor38 Zzzz Geor Zzzz5 Geor Zzzz2 Tfng56 Zzzz7 Tfng2 Zzzz14 Tfng
   Ethi23 Zzzz9 Ethi7 Zzzz Ethi7 Zzzz Ethi7 Zzzz Ethi7 Zzzz Ethi7 Zzzz Ethi7 Zzzz Ethi7 Zzzz
   Ethi7 Zzzz Cyrl32 Zyyy94 Zzzz34 Hani26 Zzzz Hani89 Zzzz12 Hani214 Zzzz26 Zyyy21 Hani Zyyy Hani
   Zyyy25 Hani9 Zinh4 Hang2 Zyyy8 Hani4 Zyyy4 Zzzz Hira86 Zzzz2 Zinh2 Zyyy2 Hira3 Zyyy Kana90
   Zyyy2 Kana3 Zzzz5 Bopo43 Zzzz Hang94 Zzzz Zyyy16 Bopo32 Zyyy38 Zzzz9 Zyyy Kana16 Hang31 Zzzz
   Zyyy64 Hang31 Zyyy81 Kana47 Zyyy Kana88 Zyyy168 Hani6592 Zyyy64 Hani20992 Yiii1165 Zzzz3
   Yiii55 Zzzz9 Lisu48 Vaii300 Zzzz20 Cyrl96 Bamu88 Zzzz8 Zyyy34 Latn102 Zyyy3 Latn82 Zzzz20
   Latn15 Sylo45 Zzzz3 Zyyy10 Zzzz6 Phag56 Zzzz8 Saur70 Zzzz8 Saur12 Zzzz6 Deva32 Kali46 Zyyy
   Kali Rjng36 Zzzz11 Rjng Hang29 Zzzz3 Java78 Zzzz Zyyy Java10 Zzzz4 Java2 Mymr31 Zzzz Cham55
   Zzzz9 Cham14 Zzzz2 Cham10 Zzzz2 Cham4 Mymr32 Tavt67 Zzzz24 Tavt5 Mtei23 Zzzz10 Ethi6 Zzzz2
   Ethi6 Zzzz2 Ethi6 Zzzz9 Ethi7 Zzzz Ethi7 Zzzz Latn43 Zyyy Latn9 Grek Latn4 Zyyy2 Zzzz4 Cher80
   Mtei46 Zzzz2 Mtei10 Zzzz6 Hang11172 Zzzz12 Hang23 Zzzz4 Hang49 Zzzz8452 Hani366 Zzzz2 Hani106
   Zzzz38 Latn7 Zzzz12 Armn5 Zzzz5 Hebr26 Zzzz Hebr5 Zzzz Hebr Zzzz Hebr2 Zzzz Hebr2 Zzzz Hebr10
   Arab494 Zyyy2 Arab144 Zzzz32 Arab16 Zinh16 Zyyy10 Zzzz6 Zinh14 Cyrl2 Zyyy35 Zzzz Zyyy19 Zzzz
   Zyyy4 Zzzz4 Arab5 Zzzz Arab135 Zzzz2 Zyyy Zzzz Zyyy32 Latn26 Zyyy6 Latn26 Zyyy11 Kana10 Zyyy
   Kana45 Zyyy2 Hang31 Zzzz3 Hang6 Zzzz2 Hang6 Zzzz2 Hang6 Zzzz2 Hang3 Zzzz3 Zyyy7 Zzzz Zyyy7
   Zzzz10 Zyyy5 Zzzz2 Linb12 Zzzz Linb26 Zzzz Linb19 Zzzz Linb2 Zzzz Linb15 Zzzz2 Linb14 Zzzz34
   Linb123 Zzzz5 Zyyy3 Zzzz4 Zyyy45 Zzzz3 Zyyy9 Grek79 Zzzz Zyyy13 Zzzz3 Grek Zzzz47 Zyyy45 Zinh
   Zzzz130 Lyci29 Zzzz3 Cari49 Zzzz15 Zinh Zyyy27 Zzzz4 Ital36 Zzzz9 Ital3 Goth27 Zzzz5 Perm43
   Zzzz5 Ugar30 Zzzz Ugar Xpeo36 Zzzz4 Xpeo14 Zzzz42 Dsrt80 Shaw48 Osma30 Zzzz2 Osma10 Zzzz6
   Osge36 Zzzz4 Osge36 Zzzz4 Elba40 Zzzz8 Aghb52 Zzzz11 Aghb Vith11 Zzzz Vith15 Zzzz Vith7 Zzzz
   Vith2 Zzzz Vith11 Zzzz Vith15 Zzzz Vith7 Zzzz Vith2 Zzzz3 Todr52 Zzzz12 Lina311 Zzzz9 Lina22
   Zzzz10 Lina8 Zzzz24 Latn6 Zzzz Latn42 Zzzz Latn9 Zzzz69 Cprt6 Zzzz2 Cprt Zzzz Cprt44 Zzzz
   Cprt2 Zzzz3 Cprt Zzzz2 Cprt Armi22 Zzzz Armi9 Palm32 Nbat31 Zzzz8 Nbat9 Zzzz48 Hatr19 Zzzz
   Hatr2 Zzzz5 Hatr5 Phnx28 Zzzz3 Phnx Lydi26 Zzzz5 Lydi Sidt26 Zzzz38 Mero32 Merc24 Zzzz4 Merc20
   Zzzz2 Merc46 Khar4 Zzzz Khar2 Zzzz5 Khar8 Zzzz Khar3 Zzzz Khar29 Zzzz2 Khar3 Zzzz4 Khar10
   Zzzz7 Khar9 Zzzz7 Sarb32 Narb32 Zzzz32 Mani39 Zzzz4 Mani12 Zzzz9 Avst54 Zzzz3 Avst7 Prti22
   Zzzz2 Prti8 Phli19 Zzzz5 Phli8 Phlp18 Zzzz7 Phlp4 Zzzz12 Phlp7 Zzzz80 Orkh73 Zzzz55 Hung51
   Zzzz13 Hung51 Zzzz7 Hung6 Rohg40 Zzzz8 Rohg10 Zzzz6 Gara38 Zzzz3 Gara29 Zzzz8 Gara2 Zzzz208
   Arab31 Zzzz Yezi42 Zzzz Yezi3 Zzzz2 Yezi2 Zzzz16 Arab6 Zzzz8 Arab9 Zzzz33 Arab6 Sogo40 Zzzz8
   Sogd42 Zzzz22 Ougr26 Zzzz38 Chrs28 Zzzz20 Elym23 Zzzz9 Brah78 Zzzz4 Brah36 Zzzz9 Brah Kthi67
   Zzzz10 Kthi Zzzz2 Sora25 Zzzz7 Sora10 Zzzz6 Cakm53 Zzzz Cakm18 Zzzz8 Mahj39 Zzzz9 Shrd96 Zzzz
   Sinh20 Zzzz11 Khoj18 Zzzz Khoj47 Zzzz62 Mult7 Zzzz Mult Zzzz Mult4 Zzzz Mult15 Zzzz Mult11
   Zzzz6 Sind59 Zzzz5 Sind10 Zzzz6 Gran4 Zzzz Gran8 Zzzz2 Gran2 Zzzz2 Gran22 Zzzz Gran7 Zzzz
   Gran2 Zzzz Gran5 Zzzz Zinh Gran9 Zzzz2 Gran2 Zzzz2 Gran3 Zzzz2 Gran Zzzz6 Gran Zzzz5 Gran7
   Zzzz2 Gran7 Zzzz3 Gran5 Zzzz11 Tutg10 Zzzz Tutg Zzzz2 Tutg Zzzz Tutg38 Zzzz Tutg10 Zzzz Tutg
   Zzzz2 Tutg Zzzz Tutg4 Zzzz Tutg10 Zzzz Tutg2 Zzzz8 Tutg2 Zzzz29 Newa92 Zzzz Newa5 Zzzz30
   Tirh72 Zzzz8 Tirh10 Zzzz166 Sidd54 Zzzz2 Sidd38 Zzzz34 Modi69 Zzzz11 Modi10 Zzzz6 Mong13
   Zzzz19 Takr58 Zzzz6 Takr10 Zzzz6 Mymr20 Zzzz28 Ahom27 Zzzz2 Ahom15 Zzzz4 Ahom23 Zzzz185 Dogr60
   Zzzz100 Wara83 Zzzz12 Wara Diak7 Zzzz2 Diak Zzzz2 Diak8 Zzzz Diak2 Zzzz Diak30 Zzzz Diak2
   Zzzz2 Diak12 Zzzz9 Diak10 Zzzz70 Nand8 Zzzz2 Nand46 Zzzz2 Nand11 Zzzz27 Zanb72 Zzzz8 Soyo83
   Zzzz13 Cans16 Pauc57 Zzzz7 Deva10 Zzzz86 Shrd8 Zzzz88 Sunu34 Zzzz14 Sunu10 Zzzz6 Bhks9 Zzzz
   Bhks45 Zzzz Bhks14 Zzzz10 Bhks29 Zzzz3 Marc32 Zzzz2 Marc22 Zzzz Marc14 Zzzz73 Gonm7 Zzzz Gonm2
   Zzzz Gonm44 Zzzz3 Gonm Zzzz Gonm2 Zzzz Gonm9 Zzzz8 Gonm10 Zzzz6 Gong6 Zzzz Gong2 Zzzz Gong37
   Zzzz Gong2 Zzzz Gong6 Zzzz7 Gong10 Zzzz6 Tols44 Zzzz4 Tols10 Zzzz246 Maka25 Zzzz7 Kawi17 Zzzz
   Kawi41 Zzzz3 Kawi29 Zzzz85 Lisu Zzzz15 Taml50 Zzzz13 Taml Xsux922 Zzzz102 Xsux111 Zzzz Xsux5
   Zzzz11 Xsux196 Zzzz2636 Cpmn99 Zzzz13 Egyp1110 Zzzz10 Egyp3995 Zzzz5 Hluw583 Zzzz6841 Gukh58
   Zzzz1734 Bamu569 Zzzz7 Mroo31 Zzzz Mroo10 Zzzz4 Mroo2 Tnsa79 Zzzz Tnsa10 Zzzz6 Bass30 Zzzz2
   Bass6 Zzzz10 Hmng70 Zzzz10 Hmng10 Zzzz Hmng7 Zzzz Hmng21 Zzzz5 Hmng19 Zzzz432 Krai58 Zzzz198
   Medf91 Zzzz5 Berf25 Zzzz2 Berf25 Zzzz44 Plrd75 Zzzz4 Plrd57 Zzzz7 Plrd17 Zzzz64 Tang Nshu
   Hani2 Kits Zzzz11 Hani7 Zzzz9 Tang6912 Kits470 Zzzz41 Kits Tang31 Zzzz97 Tang115 Zzzz8701
   Kana4 Zzzz Kana7 Zzzz Kana2 Zzzz Kana Hira287 Kana3 Zzzz15 Hira Zzzz29 Hira3 Zzzz2 Kana Zzzz14
   Kana4 Zzzz8 Nshu396 Zzzz2308 Dupl107 Zzzz5 Dupl13 Zzzz3 Dupl9 Zzzz7 Dupl10 Zzzz2 Dupl4 Zyyy4
   Zzzz3932 Zyyy253 Zzzz3 Zyyy436 Zzzz6 Zyyy23 Zzzz15 Zyyy17 Zzzz15 Zinh46 Zzzz2 Zinh23 Zzzz9
   Zyyy116 Zzzz60 Zyyy246 Zzzz10 Zyyy39 Zzzz2 Zyyy62 Zinh3 Zyyy17 Zinh8 Zyyy2 Zinh7 Zyyy30 Zinh4
   Zyyy61 Zzzz21 Grek70 Zzzz122 Zyyy20 Zzzz12 Zyyy20 Zzzz12 Zyyy87 Zzzz9 Zyyy25 Zzzz135 Zyyy85
   Zzzz Zyyy71 Zzzz Zyyy2 Zzzz2 Zyyy Zzzz2 Zyyy2 Zzzz2 Zyyy4 Zzzz Zyyy12 Zzzz Zyyy Zzzz Zyyy7
   Zzzz Zyyy65 Zzzz Zyyy4 Zzzz2 Zyyy8 Zzzz Zyyy7 Zzzz Zyyy28 Zzzz Zyyy4 Zzzz Zyyy5 Zzzz Zyyy
   Zzzz3 Zyyy7 Zzzz Zyyy340 Zzzz2 Zyyy292 Zzzz2 Zyyy50 Sgnw652 Zzzz15 Sgnw5 Zzzz Sgnw15 Zzzz1104
   Latn31 Zzzz6 Latn6 Zzzz213 Glag7 Zzzz Glag17 Zzzz2 Glag7 Zzzz Glag2 Zzzz Glag5 Zzzz5 Cyrl62
   Zzzz33 Cyrl Zzzz112 Hmnp45 Zzzz3 Hmnp14 Zzzz2 Hmnp10 Zzzz4 Hmnp2 Zzzz320 Toto31 Zzzz17 Wcho58
   Zzzz5 Wcho Zzzz464 Nagm42 Zzzz214 Onao43 Zzzz4 Onao Zzzz192 Tayo31 Zzzz Tayo22 Zzzz8 Tayo2
   Zzzz224 Ethi7 Zzzz Ethi4 Zzzz Ethi2 Zzzz Ethi15 Zzzz Mend197 Zzzz2 Mend16 Zzzz41 Adlm76 Zzzz4
   Adlm10 Zzzz4 Adlm2 Zzzz785 Zyyy68 Zzzz76 Zyyy61 Zzzz194 Arab4 Zzzz Arab27 Zzzz Arab2 Zzzz Arab
   Zzzz2 Arab Zzzz Arab10 Zzzz Arab4 Zzzz Arab Zzzz Arab Zzzz6 Arab Zzzz4 Arab Zzzz Arab Zzzz
   Arab Zzzz Arab3 Zzzz Arab2 Zzzz Arab Zzzz2 Arab Zzzz Arab Zzzz Arab Zzzz Arab Zzzz Arab Zzzz
   Arab2 Zzzz Arab Zzzz2 Arab4 Zzzz Arab7 Zzzz Arab4 Zzzz Arab4 Zzzz Arab Zzzz Arab10 Zzzz Arab17
   Zzzz5 Arab3 Zzzz Arab5 Zzzz Arab17 Zzzz52 Arab2 Zzzz270 Zyyy44 Zzzz4 Zyyy100 Zzzz12 Zyyy15
   Zzzz2 Zyyy15 Zzzz Zyyy15 Zzzz Zyyy37 Zzzz10 Zyyy174 Zzzz56 Zyyy26 Hira Zyyy2 Zzzz13 Zyyy44
   Zzzz4 Zyyy9 Zzzz7 Zyyy2 Zzzz14 Zyyy6 Zzzz154 Zyyy985 Zzzz3 Zyyy17 Zzzz3 Zyyy13 Zzzz3 Zyyy218
   Zzzz6 Zyyy12 Zzzz4 Zyyy Zzzz15 Zyyy12 Zzzz4 Zyyy56 Zzzz8 Zyyy10 Zzzz6 Zyyy40 Zzzz8 Zyyy30
   Zzzz2 Zyyy12 Zzzz4 Zyyy2 Zzzz14 Zyyy9 Zzzz39 Zyyy344 Zzzz8 Zyyy14 Zzzz2 Zyyy13 Zzzz3 Zyyy11
   Zzzz3 Zyyy57 Zzzz Zyyy Zzzz4 Zyyy16 Zzzz2 Zyyy12 Zzzz4 Zyyy10 Zzzz7 Zyyy147 Zzzz Zyyy103
   Zzzz1029 Hani42720 Zzzz32 Hani4382 Zzzz2 Hani5774 Zzzz2 Hani7473 Zzzz15 Hani622 Zzzz2466
   Hani542 Zzzz1506 Hani4939 Zzzz5 Hani8490 Zzzz707463 Zyyy Zzzz30 Zyyy96 Zzzz128 Zinh240
   Zzzz196112"

/-- Ranges of code points whose script extensions are not just their script. -/
def scriptExtensionTable : String :=
  "B7=Avst=Cari=Copt=Dupl=Elba=Geor=Glag=Gong=Goth=Grek=Hani=Latn=Lydi=Mahj=Perm=Shaw
   2BC=Beng=Cyrl=Deva=Latn=Lisu=Thai=Toto 2C7=Bopo=Latn 2C9-2CB=Bopo=Latn 2CD=Latn=Lisu
   2D7=Latn=Thai 2D9=Bopo=Latn 300=Cher=Copt=Cyrl=Grek=Latn=Perm=Sunu=Tale
   301=Cher=Cyrl=Grek=Latn=Osge=Sunu=Tale=Todr 302=Cher=Cyrl=Latn=Tfng
   303=Glag=Latn=Sunu=Syrc=Thai 304=Aghb=Cher=Copt=Cyrl=Goth=Grek=Latn=Osge=Syrc=Tfng=Todr
   305=Copt=Elba=Glag=Goth=Kana=Latn 306=Cyrl=Grek=Latn=Perm=Tfng
   307=Copt=Dupl=Hebr=Latn=Perm=Syrc=Tale=Tfng=Todr
   308=Armn=Cyrl=Dupl=Goth=Grek=Hebr=Latn=Perm=Syrc=Tale=Tfng 309=Latn=Tfng 30A=Dupl=Latn=Syrc
   30B=Cher=Cyrl=Latn=Osge 30C=Cher=Latn=Tale 30D=Latn=Sunu 30E=Ethi=Latn 310=Latn=Sunu
   311=Cyrl=Latn=Todr 313=Grek=Latn=Perm=Todr 323=Cher=Dupl=Kana=Latn=Syrc=Tfng
   324=Cher=Dupl=Latn=Syrc 325=Latn=Syrc 32D=Latn=Sunu=Syrc 32E=Latn=Syrc 330=Cher=Latn=Syrc
   331=Aghb=Cher=Goth=Latn=Sunu=Syrc=Thai 342=Grek 345=Grek 358=Latn=Osge 35E=Aghb=Latn=Todr
   363-36F=Latn 374-375=Copt=Grek 483=Cyrl=Perm 484=Cyrl=Glag 485-486=Cyrl=Latn 487=Cyrl=Glag
   589=Armn=Geor=Glag 60C=Arab=Gara=Nkoo=Rohg=Syrc=Thaa=Yezi
   61B=Arab=Gara=Nkoo=Rohg=Syrc=Thaa=Yezi 61C=Arab=Syrc=Thaa
   61F=Adlm=Arab=Gara=Nkoo=Rohg=Syrc=Thaa=Yezi 640=Adlm=Arab=Mand=Mani=Ougr=Phlp=Rohg=Sogd=Syrc
   64B-655=Arab=Syrc 660-669=Arab=Thaa=Yezi 670=Arab=Syrc 6D4=Arab=Rohg
   951=Beng=Deva=Gran=Gujr=Guru=Knda=Latn=Mlym=Nand=Newa=Orya=Shrd=Taml=Telu=Tirh
   952=Beng=Deva=Gran=Gujr=Guru=Knda=Latn=Mlym=Newa=Orya=Taml=Telu=Tirh
   964=Beng=Deva=Dogr=Gong=Gonm=Gran=Gujr=Guru=Knda=Mahj=Mlym=Nand=Onao=Orya=Sind=Sinh=Sylo=Takr=Taml=Telu=Tirh
   965=Beng=Deva=Dogr=Gong=Gonm=Gran=Gujr=Gukh=Guru=Knda=Limb=Mahj=Mlym=Nand=Onao=Orya=Sind=Sinh=Sylo=Takr=Taml=Telu=Tirh
   966-96F=Deva=Dogr=Kthi=Mahj 9E6-9EF=Beng=Cakm=Sylo A66-A6F=Guru=Mult AE6-AEF=Gujr=Khoj
   BE6-BF3=Gran=Taml CE6-CEF=Knda=Nand=Tutg 1040-1049=Cakm=Mymr=Tale 10FB=Geor=Glag=Latn
   16EB-16F8=Runr 1735-1736=Buhd=Hano=Tagb=Tglg 1802-1803=Mong=Phag 1805=Mong=Phag
   1CD0=Beng=Deva=Gran=Knda 1CD1=Deva 1CD2=Beng=Deva=Gran=Knda 1CD3=Deva=Gran=Knda 1CD4=Deva
   1CD5=Beng=Deva=Newa=Telu=Tirh 1CD6=Beng=Deva=Telu 1CD7=Deva=Newa=Shrd 1CD8=Beng=Deva=Newa=Telu
   1CD9=Deva=Shrd 1CDA=Deva=Knda=Mlym=Orya=Taml=Telu 1CDB=Deva 1CDC-1CDD=Deva=Shrd 1CDE-1CDF=Deva
   1CE0=Deva=Shrd 1CE1=Beng=Deva 1CE2=Deva=Newa=Tirh 1CE3-1CE8=Deva 1CE9=Deva=Nand=Newa
   1CEA=Beng=Deva=Shrd 1CEB=Deva=Newa 1CEC=Deva 1CED=Beng=Deva=Newa=Shrd 1CEE-1CF1=Deva
   1CF2=Beng=Deva=Gran=Knda=Mlym=Nand=Orya=Sinh=Telu=Tirh=Tutg 1CF3=Deva=Gran
   1CF4=Deva=Gran=Knda=Tutg 1CF5-1CF6=Beng=Deva 1CF7=Beng 1CF8-1CF9=Deva=Gran 1CFA=Nand
   1DC0-1DC1=Grek 1DF8=Cyrl=Latn=Syrc 1DFA=Syrc 202F=Latn=Mong=Phag 204F=Adlm=Arab
   205A=Cari=Geor=Glag=Hung=Lyci=Orkh 205D=Cari=Grek=Hung=Mero 20F0=Deva=Gran=Latn 2E17=Copt=Latn
   2E30=Avst=Orkh 2E31=Avst=Cari=Geor=Hung=Kthi=Lydi=Samr 2E3C=Dupl 2E41=Adlm=Arab=Hung
   2E43=Cyrl=Glag 2FF0-2FFF=Hani=Tang 3001=Bopo=Hang=Hani=Hira=Kana=Mong=Yiii
   3002=Bopo=Hang=Hani=Hira=Kana=Mong=Phag=Yiii 3003=Bopo=Hang=Hani=Hira=Kana 3006-3007=Hani
   3008-3009=Bopo=Hang=Hani=Hira=Kana=Mong=Tibt=Yiii
   300A-300B=Bopo=Hang=Hani=Hira=Kana=Lisu=Mong=Tibt=Yiii 300C-3011=Bopo=Hang=Hani=Hira=Kana=Yiii
   3013=Bopo=Hang=Hani=Hira=Kana 3014-301B=Bopo=Hang=Hani=Hira=Kana=Yiii
   301C-301F=Bopo=Hang=Hani=Hira=Kana 302A-302D=Bopo=Hani 3030=Bopo=Hang=Hani=Hira=Kana
   3031-3035=Hira=Kana 3037=Bopo=Hang=Hani=Hira=Kana 303C-303D=Hani=Hira=Kana 303E-303F=Hani
   3099-309C=Hira=Kana 30A0=Hira=Kana 30FB=Bopo=Hang=Hani=Hira=Kana=Yiii 30FC=Hira=Kana
   3190-319F=Hani 31C0-31E5=Hani 31EF=Hani=Tang 3220-3247=Hani 3280-32B0=Hani 32C0-32CB=Hani
   32FF=Hani 3358-3370=Hani 337B-337F=Hani 33E0-33FE=Hani A66F=Cyrl=Glag A700-A707=Hani=Latn
   A830-A832=Deva=Dogr=Gujr=Guru=Khoj=Knda=Kthi=Mahj=Mlym=Modi=Nand=Shrd=Sind=Takr=Tirh=Tutg
   A833-A835=Deva=Dogr=Gujr=Guru=Khoj=Knda=Kthi=Mahj=Modi=Nand=Shrd=Sind=Takr=Tirh=Tutg
   A836-A837=Deva=Dogr=Gujr=Guru=Khoj=Kthi=Mahj=Modi=Sind=Takr=Tirh
   A838=Deva=Dogr=Gujr=Guru=Khoj=Kthi=Mahj=Modi=Shrd=Sind=Takr=Tirh
   A839=Deva=Dogr=Gujr=Guru=Khoj=Kthi=Mahj=Modi=Sind=Takr=Tirh A8F1=Beng=Deva=Tutg A8F3=Deva=Taml
   A92E=Kali=Latn=Mymr A9CF=Bugi=Java FD3E-FD3F=Arab=Nkoo FDF2=Arab=Thaa FDFD=Arab=Thaa
   FE45-FE46=Bopo=Hang=Hani=Hira=Kana FF61-FF65=Bopo=Hang=Hani=Hira=Kana=Yiii FF70=Hira=Kana
   FF9E-FF9F=Hira=Kana 10100-10101=Cpmn=Cprt=Linb 10102=Cprt=Linb 10107-10133=Cprt=Lina=Linb
   10137-1013F=Cprt=Linb 102E0-102FB=Arab=Copt 10AF2=Mani=Ougr 11301=Gran=Taml 11303=Gran=Taml
   1133B-1133C=Gran=Taml 11FD0-11FD1=Gran=Taml 11FD3=Gran=Taml 1BCA0-1BCA3=Dupl 1D360-1D371=Hani
   1F250-1F251=Hani"

/-- The codes of scripts, each with its long names. -/
def scriptNames : String :=
  "Adlm=Adlam Aghb=Caucasian_Albanian Ahom=Ahom Arab=Arabic Armi=Imperial_Aramaic Armn=Armenian
   Avst=Avestan Bali=Balinese Bamu=Bamum Bass=Bassa_Vah Batk=Batak Beng=Bengali Berf=Beria_Erfe
   Bhks=Bhaiksuki Bopo=Bopomofo Brah=Brahmi Brai=Braille Bugi=Buginese Buhd=Buhid Cakm=Chakma
   Cans=Canadian_Aboriginal Cari=Carian Cham=Cham Cher=Cherokee Chrs=Chorasmian Copt=Coptic=Qaac
   Cpmn=Cypro_Minoan Cprt=Cypriot Cyrl=Cyrillic Deva=Devanagari Diak=Dives_Akuru Dogr=Dogra
   Dsrt=Deseret Dupl=Duployan Egyp=Egyptian_Hieroglyphs Elba=Elbasan Elym=Elymaic Ethi=Ethiopic
   Gara=Garay Geor=Georgian Glag=Glagolitic Gong=Gunjala_Gondi Gonm=Masaram_Gondi Goth=Gothic
   Gran=Grantha Grek=Greek Gujr=Gujarati Gukh=Gurung_Khema Guru=Gurmukhi Hang=Hangul Hani=Han
   Hano=Hanunoo Hatr=Hatran Hebr=Hebrew Hira=Hiragana Hluw=Anatolian_Hieroglyphs
   Hmng=Pahawh_Hmong Hmnp=Nyiakeng_Puachue_Hmong Hung=Old_Hungarian Ital=Old_Italic Java=Javanese
   Kali=Kayah_Li Kana=Katakana Kawi=Kawi Khar=Kharoshthi Khmr=Khmer Khoj=Khojki
   Kits=Khitan_Small_Script Knda=Kannada Krai=Kirat_Rai Kthi=Kaithi Lana=Tai_Tham Laoo=Lao
   Latn=Latin Lepc=Lepcha Limb=Limbu Lina=Linear_A Linb=Linear_B Lisu=Lisu Lyci=Lycian
   Lydi=Lydian Mahj=Mahajani Maka=Makasar Mand=Mandaic Mani=Manichaean Marc=Marchen
   Medf=Medefaidrin Mend=Mende_Kikakui Merc=Meroitic_Cursive Mero=Meroitic_Hieroglyphs
   Mlym=Malayalam Modi=Modi Mong=Mongolian Mroo=Mro Mtei=Meetei_Mayek Mult=Multani Mymr=Myanmar
   Nagm=Nag_Mundari Nand=Nandinagari Narb=Old_North_Arabian Nbat=Nabataean Newa=Newa Nkoo=Nko
   Nshu=Nushu Ogam=Ogham Olck=Ol_Chiki Onao=Ol_Onal Orkh=Old_Turkic Orya=Oriya Osge=Osage
   Osma=Osmanya Ougr=Old_Uyghur Palm=Palmyrene Pauc=Pau_Cin_Hau Perm=Old_Permic Phag=Phags_Pa
   Phli=Inscriptional_Pahlavi Phlp=Psalter_Pahlavi Phnx=Phoenician Plrd=Miao
   Prti=Inscriptional_Parthian Rjng=Rejang Rohg=Hanifi_Rohingya Runr=Runic Samr=Samaritan
   Sarb=Old_South_Arabian Saur=Saurashtra Sgnw=SignWriting Shaw=Shavian Shrd=Sharada Sidd=Siddham
   Sidt=Sidetic Sind=Khudawadi Sinh=Sinhala Sogd=Sogdian Sogo=Old_Sogdian Sora=Sora_Sompeng
   Soyo=Soyombo Sund=Sundanese Sunu=Sunuwar Sylo=Syloti_Nagri Syrc=Syriac Tagb=Tagbanwa
   Takr=Takri Tale=Tai_Le Talu=New_Tai_Lue Taml=Tamil Tang=Tangut Tavt=Tai_Viet Tayo=Tai_Yo
   Telu=Telugu Tfng=Tifinagh Tglg=Tagalog Thaa=Thaana Thai=Thai Tibt=Tibetan Tirh=Tirhuta
   Tnsa=Tangsa Todr=Todhri Tols=Tolong_Siki Toto=Toto Tutg=Tulu_Tigalari Ugar=Ugaritic Vaii=Vai
   Vith=Vithkuqi Wara=Warang_Citi Wcho=Wancho Xpeo=Old_Persian Xsux=Cuneiform Yezi=Yezidi Yiii=Yi
   Zanb=Zanabazar_Square Zinh=Inherited=Qaai Zyyy=Common"

def scriptRuns : List Run := readRuns scriptTable

/-- The code points of one script. -/
def inScript (code : String) : CharSet := withLabel (· == code) scriptRuns

/-- The ranges with script extensions of their own, and the scripts each is used with. -/
def scriptExtensions : List ((Nat × Nat) × List String) :=
  (words scriptExtensionTable).filterMap fun word =>
    match fields word with
    | range :: scripts => some (readRange range, scripts.map String.ofList)
    | [] => none

/-- The code points used with a script. -/
def usedWithScript (code : String) : CharSet :=
  let listed := CharSet.ofRanges (scriptExtensions.map Prod.fst)
  let used := CharSet.ofRanges ((scriptExtensions.filter fun e => e.2.contains code).map Prod.fst)
  .union used (.diff CharSet.lastCode (inScript code) listed)

end StablePath.Unicode
