import ClassMetrics.Unicode.Runs

/-!
The script of every code point, Unicode 16.0, as packed runs that share one, each script named by
its four-letter code, `Zzzz` for none. Beside it, the code points whose script extensions differ
from their script alone: a hexadecimal code point or range, a colon, and the four-letter codes of
all the scripts they are used with.
-/

namespace ClassMetrics.Unicode

/-- The scripts, run by run from code point 0. -/
def scriptTable : RunTable where
  names := String.join [
    "Zzzz Zyyy Arab Latn Grek Ethi Zinh Hani Taml Guru Gran Beng Gujr Orya Hang Kana Telu Knda Sinh",
    " Laoo Tutg Cyrl Geor Hebr Vith Khar Diak Mlym Tibt Linb Gonm Mong Glag Hira Cprt Gong Deva Lim",
    "b Lana Mult Hmng Dupl Armn Syrc Mymr Khmr Talu Cham Bhks Xsux Tang Hmnp Bopo Copt Cher Cans Ta",
    "gb Lepc Tfng Java Mtei Lina Hatr Merc Phlp Hung Gara Yezi Brah Ahom Nand Marc Kawi Mroo Plrd K",
    "its Sgnw Adlm Nkoo Samr Mand Thai Runr Tglg Tale Bugi Bali Sund Batk Yiii Lisu Bamu Saur Kali ",
    "Rjng Tavt Ital Ugar Xpeo Osma Osge Aghb Armi Nbat Phnx Lydi Mani Avst Prti Phli Rohg Kthi Sora",
    " Cakm Khoj Sind Newa Tirh Sidd Modi Takr Wara Sunu Egyp Tnsa Bass Nshu Wcho Onao Mend Thaa Oga",
    "m Hano Buhd Olck Brai Vaii Sylo Phag Lyci Cari Goth Perm Dsrt Shaw Elba Todr Palm Mero Sarb Na",
    "rb Orkh Sogo Sogd Ougr Chrs Elym Mahj Shrd Dogr Zanb Soyo Pauc Maka Cpmn Hluw Gukh Krai Medf T",
    "oto Nagm"]
  runs := String.join [
    "4hh1qjmh1qj2vhhjvhhjlh1njhh1vjhh1chj2nhljlhi3k1kh7gmkkhhjkigkkhhhkkghkhhhkhhjkhghkhg1kkhg3vku3",
    "l1gk8l1limap1lhg2m2qig3i2qigj2qhg3n1nog1r1nkgm1nrglihhmihhuihhjihh2gihhqirm1qihm6sihh2iiu2rhg3",
    "s2rigj2r3gi3i8iug3r4uigj4u2u4vigv4vhg1s5gigh5ghgr2rlg1vihgiilg4rihh1ti5h2kkmv2kih1q2kkrhgorigi",
    "rig1mrhgnrhghrjgkrigprigirigkroghrkgirhglrig1prigjphgmpkgipig1mphgnphgiphgiphgipighphglpkgipig",
    "jpjghpngkphghpng1hpqgjshgpshgjshg1mshgnshgishglsigqshgjshgjsighsvgksigssngnshgjthgotigitig1mth",
    "gnthgithgltigptigitigjtngjtkgithgltig1itqgiohgmojgjohgkojgiohghohgiojgiojgjojgsokglojgjohgkoig",
    "homghoug1lolgt1ghgj1ghg1n1ghg1g1gigp1ghgj1ghgk1gngi1ghgj1gigh1gigk1gigq1gngp1gt1hhgj1hhg1n1hhg",
    "q1hhgl1higp1hhgj1hhgk1hngi1hmgi1hhgk1higq1hhgj1hsgt1rhgj1rhg3j1rhgj1rhgm1rkg1g1rig1q1rhgj1ihg1",
    "i1ijg1o1ihgp1ihgh1iign1ijgh1ikgm1ihgh1ihgo1imgq1iigj1isg3q5hkghh1s5h2lgi1jhgh1jhgl1jhg1o1jhgh1",
    "jhg1n1jigl1jhgh1jhgn1jhgq1jigk1j2gg4o1shg2k1skg2n1shg2k1shgv1shgn1skhi1s2lgag2s2m1mhgh1mlgh1mi",
    "g2r1mhhk1m10gu4plhgklignlhghlhgklig2plhgklig2hlhgklignlhghlhgkligvlhg3plhgklig4jlig2gljg1qlmg5",
    "m3migm3mig28g3n1t8jjg4r5ijhr5ing1m5jpgh5j1l8kihpg1k8lsgt3ohgj3ohgi3osg5u2tigq2tmgq2tmgi1vihh1v",
    "hh1k1vmg5p1vng2r1vlg4m3nqg1v2lhgs2lkgs2lkgh2ljgs2l1u5kigl5krg2s2ukg1q2umgr2ujgi2u2g2t1s5ligi5l",
    "3v2mhg1t2migr2mmgq2mmgu2mig1vm3hg4t5mhg3i5m4g5n3k5oogk5o3o3pjgv3pjgj3p3g8mr1llg2r1migj1mo5nogj",
    "mhhtmhhnmkhhmmhhmjhimhhlg2mjlkh1l3hjlkkjlktjh1l4mjhk4gm10gj1mkigmkig2mkigmkigokhghkhghkhghkhg1",
    "vkig3lkhgvkhgukigmkhg1jkigjkhgpkhgshim5nhhgrhhjigrhhjvhhgtjjg2hhvg2hmvg2mhhkjhijmhhj1rhhj1hh2p",
    "jjhkg29qh1mgrh1lg3agh10g8n27khig2ghhg6ph6g2g2gj7k3llgn3l2m1mhgh1mlgh1mig3o3qngi3qugh3q1nlpgnlh",
    "gnlhgnlhgnlhgnlhgnlhgnlhgnlhg2g1l5uh2ig1qnhg5pnsgdmn1qg1lhhnhhhn1phpnkmiuohknkhhg5m2higimihj2h",
    "hh5qvihjvlg2r3khg5uuhg1gh2g3k2mhpghh1gv1vuhg4gh1vu5hh2vvhh5ovaoh19cgn4gh520gn48t5pjg3n5ppg3g5q",
    "12s8o1kg6g1l5o5rog2ih6mjjh4jjigijhghjhgoj1lguj2t8pjgqhmg3o8qog4m5sogs5smg2g2k2u5thhh5t2k5urgh5",
    "u1tujg4u3rhghhq3rkgi3r1v2shg3n2vpgu2vigq2vigk2v2g2s4j5v1ogl5v1n3sqgmligmligmlpgnlhgnlhg2rjhhpj",
    "hkkjihkg5g3m2u3sigq3smg2bakusg1nukg3hu210kg16unig6qn2mgnjsgl2qlg1q1nhgl1nhgh1nhgi1nhgi1nhgq1n7",
    "ji1gg16riih5giig3minghi2gg1gi1gmqhmgumi1l2jhhg1jhhgkhkglihg8niighhhg2gh1qjmh1qjrhqvhh2tvih1vuj",
    "gmuigmuigmuigjujgnhhgnhqglhigs1thg1q1thg1j1thgi1thgv1tigu1t2ig7r1tlgjhkg2thjgph4vkhgthjghk2vg2",
    "thhm8ig1t8rjg3h8svghm1rhkg2k6gpgj6g1r8tlg2r8ulg1u6hhgh6h2k6ikgu6i2qg5g8v3g9g1u6jigq6jmg2k6kkg2",
    "k6kkg2o9hog3k6lrgh6lr1ohgv1ohgn1ohgi1ohgr1ohgv1ohgn1ohgi1ojg3k9isg13n3tpg1m3tqgo3t1ogmjhg2qjhg",
    "pj4lgm2iigh2ihg2s2ihgi2ijgh2iigh2i1m6mhgp6m2g9j1v6nogp6n3gg1j3uhgi3ulgl3u1s6ojgh6o1q6plgh6p4gg",
    "2g9k1o3vkg1k3vig2u3vk1phgi1plgo1phgj1phg1t1pigj1pkgq1pngp1png2g9l2g9m2gg2n6qkgs6qpg3m6rjgn6r1m",
    "6sigo6s1j6tlgo6t1i4gngk4gsgn4g5gg4p9n3ng3j4htg3j4hngm4h2o6uogq6umg2m4ijg1t4iogi4idgg1vihg2q4jh",
    "gj4jigi4j1ggji3ngki2o9oog2q9p1mg1q9q2mg1s9r1kg1n9spg4u4kkg2k4kpgh4k4j6vqgh6vig1p7gngq7gmg3l7hh",
    "g1i7hog2n9tpg6g9uhg1k1irg1i7ihg2v7i3ugn2nhgh2nhgk2nhgv2nhgr2nmg3r7jlgq7jmgkqhgoqigiqig1mqhgnqh",
    "giqhglqhghmpqigiqigjqighqmghqlgnqignqjglqrgq1khgh1kigh1khg2m1khgq1khgh1kigh1khgk1khgq1khgi1kog",
    "i1k1tg5s7khgl7k1ug4o7logq7lamg3m7mig2m7m2ig4l7nrgq7nmgt1v1jg3q7omgq7omg1k2s1sg1r4ligv4lkg1n4lb",
    "pg3s9v6kg5j7psgh7pn1qigh1qigo1qhgi1qhg1u1qhgi1qigs1qpgq1q4mgo4mig2u4migr4m1rg4oagog5jahtg1g3n3",
    "paingq2kbmg2i7qugq7qmgp3ghg2t3ghgu3gqg1t3gjg2g4nig1m4nhgu4n4pgn1uhgi1uhg2s1ujgh1uhgi1uhgp1uogq",
    "1umgm2jhgi2jhg2l2jhgi2jhgm2jngq2j13mg1pajng1h4ohg2p4ojg1t4o5lgh5qvg3iotgho39q3h6mg6v3hhgl3hrgc",
    "k3ha4sg6jaktg45m7rqgf9r7rlg24nal1abpg3qam6cmg23p5rng1v4phgq4pkgi4p4v7shgq7smg1u7tigm7tqg4m2oqg",
    "q2ohgn2ohg1l2olg1j2o1bgg3qancmg5rao6lg4r4qkg3p4qng1h4q4ggh3ih7uinh4rrginug17fo3iog30g3i1dm4r2p",
    "gh4rp3i22engkvhgnvhgivhghv11v2hjvvgh2h1tgj2highvugkvog18s7u90kg6r2plgt2pjgp2pngq2pigk2pkhf5sgf",
    "qhmg1bkh4sg2umig1nmpg7kh3sgfmhqg2nhig3uhjm1hhomihnm1uhkm3th1lg4mk7qg1khsg1khsg5nhpg1ph8ng5lhhg",
    "4nhhgihighhigihigkhhgshhghhhgnhhg4hhhgkhigohhgnhhg1shhgkhhglhhghhjgnhhg15khig12khig3ih28s4svgl",
    "4shgv4s45gg1vjmgmjdlgn2ghg1h2gign2ghgi2ghgl2glg3u1l2hgh1l7gg2t3jjgu3jigq3jkgi3j14gg1vap1hg3q7v",
    "lgh7v1dgg2qaqdmg2r8gkgh8g1eggnlhgklhgilhgvlhgcl8hig1g8h2pg4s4tkgq4tkgi4t31hg4kh4sg3thcigkihg1r",
    "ihgiihghiighihgqihgkihghihghimghikghihghihghihgjihgiihghiighihghihghihghihghihgiihghiigkihgnih",
    "gkihgkihghihgqihg1hilgjihglihg1hi3kgii10ug2shkg6khsgvhigvhhgvhhg2lhqgauh3og1qhh2hihtg2shkgphng",
    "ihugmh9qg3dohkg1hhjgthjg7nhkg5vhmgshkghhvgshkg3ohogqhmg2ohog1uhigshkgih3ug15khsguhigthjgqhlg3o",
    "hngvhigrhmgphng9jhhg6mh40mga6egn2gg103qnmgdunig168inug1d3hnvg26un9aig21un5eig134rnlg106gnadc5h",
    "ghh1ug6gh8ggfgm2fe1gg"]

/-- The code points whose script extensions are not just their script. -/
def extensionTable : String :=
  String.join [
  "b7:CoptGeorGothGrekHaniLatnShawGlagPermCariLydiAvstDuplElbaMahjGong ",
  "2bc:BengCyrlDevaLatnThaiLisuToto 2c7:BopoLatn 2c9-2cb:BopoLatn 2cd:LatnLisu 2d7:LatnThai ",
  "2d9:BopoLatn 300:CherCoptCyrlGrekLatnTalePermSunu 301:CherCyrlGrekLatnTaleOsgeSunuTodr ",
  "302:CherCyrlLatn 303:LatnSyrcThaiGlagSunu 304:CherCoptCyrlGothGrekLatnSyrcAghbOsgeTodr ",
  "305:CoptGothKanaLatnGlagElba 306:CyrlGrekLatnPerm 307:CoptHebrLatnSyrcTalePermDuplTodr ",
  "308:ArmnCyrlGothGrekHebrLatnSyrcTalePermDupl 309:Latn 30a:LatnSyrcDupl 30b:CherCyrlLatnOsge ",
  "30c:CherLatnTale 30d:LatnSunu 30e:EthiLatn 310:LatnSunu 311:CyrlLatnTodr 313:GrekLatnPermTodr ",
  "320:LatnSyrc 323:CherKanaLatnSyrcDupl 324:CherLatnSyrcDupl 325:LatnSyrc 32d:LatnSyrcSunu ",
  "32e:LatnSyrc 330:CherLatnSyrc 331:CherGothLatnThaiAghbSunu 342:Grek 345:Grek 358:LatnOsge ",
  "35e:LatnAghbTodr 363-36f:Latn 374-375:CoptGrek 483:CyrlPerm 484:CyrlGlag 485-486:CyrlLatn ",
  "487:CyrlGlag 589:ArmnGeorGlag 60c:ArabSyrcThaaNkooRohgYeziGara ",
  "61b:ArabSyrcThaaNkooRohgYeziGara 61c:ArabSyrcThaa 61f:ArabSyrcThaaNkooAdlmRohgYeziGara ",
  "640:ArabSyrcMandManiPhlpAdlmRohgSogdOugr 64b-655:ArabSyrc 660-669:ArabThaaYezi 670:ArabSyrc ",
  "6d4:ArabRohg 951:BengDevaGujrGuruKndaLatnMlymOryaTamlTeluGranShrdTirh ",
  "952:BengDevaGujrGuruKndaLatnMlymOryaTamlTeluGranTirh ",
  "964:BengDevaGujrGuruKndaMlymOryaSinhTamlTeluSyloGranSindTakrTirhMahjGonmDogrGongNandOnao ",
  "965:BengDevaGujrGuruKndaMlymOryaSinhTamlTeluLimbSyloGranSindTakrTirhMahjGonmDogrGongNandGukhOnao ",
  "966-96f:DevaKthiMahjDogr 9e6-9ef:BengSyloCakm a66-a6f:GuruMult ae6-aef:GujrKhoj ",
  "be6-bf3:TamlGran ce6-cef:KndaNandTutg 1040-1049:MymrTaleCakm 10fb:GeorLatnGlag 16eb-16ed:Runr ",
  "1735-1736:TglgHanoBuhdTagb 1802-1803:MongPhag 1805:MongPhag 1cd0:BengDevaKndaGran 1cd1:Deva ",
  "1cd2:BengDevaKndaGran 1cd3:DevaKndaGran 1cd4:Deva 1cd5-1cd6:BengDeva 1cd7:DevaShrd ",
  "1cd8:BengDeva 1cd9:DevaShrd 1cda:DevaKndaMlymOryaTamlTelu 1cdb:Deva 1cdc-1cdd:DevaShrd ",
  "1cde-1cdf:Deva 1ce0:DevaShrd 1ce1:BengDeva 1ce2-1ce8:Deva 1ce9:DevaNand 1cea:BengDevaShrd ",
  "1ceb-1cec:Deva 1ced:BengDevaShrd 1cee-1cf1:Deva ",
  "1cf2:BengDevaKndaMlymOryaSinhTeluGranTirhNandTutg 1cf3:DevaGran 1cf4:DevaKndaGranTutg ",
  "1cf5-1cf6:BengDeva 1cf7:Beng 1cf8-1cf9:DevaGran 1cfa:Nand 1dc0-1dc1:Grek 1df8:CyrlLatnSyrc ",
  "1dfa:Syrc 202f:LatnMongPhag 204f:ArabAdlm 205a:GeorGlagHungOrkhCariLyci 205d:GrekHungMeroCari ",
  "20f0:DevaLatnGran 2e17:CoptLatn 2e30:OrkhAvst 2e31:GeorHungCariLydiAvstKthiSamr 2e3c:Dupl ",
  "2e41:ArabHungAdlm 2e43:CyrlGlag 2ff0-2fff:HaniTang 3001:BopoHaniHangHiraKanaMongYiii ",
  "3002:BopoHaniHangHiraKanaMongYiiiPhag 3003:BopoHaniHangHiraKana 3006:Hani ",
  "3008-3009:BopoHaniHangHiraKanaMongTibtYiii 300a-300b:BopoHaniHangHiraKanaMongTibtYiiiLisu ",
  "300c-3011:BopoHaniHangHiraKanaYiii 3013:BopoHaniHangHiraKana ",
  "3014-301b:BopoHaniHangHiraKanaYiii 301c-301f:BopoHaniHangHiraKana 302a-302d:BopoHani ",
  "3030:BopoHaniHangHiraKana 3031-3035:HiraKana 3037:BopoHaniHangHiraKana 303c-303d:HaniHiraKana ",
  "303e-303f:Hani 3099-309c:HiraKana 30a0:HiraKana 30fb:BopoHaniHangHiraKanaYiii 30fc:HiraKana ",
  "3190-319f:Hani 31c0-31e5:Hani 31ef:HaniTang 3220-3247:Hani 3280-32b0:Hani 32c0-32cb:Hani ",
  "32ff:Hani 3358-3370:Hani 337b-337f:Hani 33e0-33fe:Hani a66f:CyrlGlag a700-a707:HaniLatn ",
  "a830-a832:DevaGujrGuruKndaMlymKthiSindShrdTakrKhojTirhMahjModiDogrNandTutg ",
  "a833-a835:DevaGujrGuruKndaKthiSindShrdTakrKhojTirhMahjModiDogrNandTutg ",
  "a836-a837:DevaGujrGuruKthiSindTakrKhojTirhMahjModiDogr ",
  "a838:DevaGujrGuruKthiSindShrdTakrKhojTirhMahjModiDogr ",
  "a839:DevaGujrGuruKthiSindTakrKhojTirhMahjModiDogr a8f1:BengDevaTutg a8f3:DevaTaml ",
  "a92e:LatnMymrKali a9cf:BugiJava fd3e-fd3f:ArabNkoo fdf2:ArabThaa fdfd:ArabThaa ",
  "fe45-fe46:BopoHaniHangHiraKana ff61-ff65:BopoHaniHangHiraKanaYiii ff70:HiraKana ",
  "ff9e-ff9f:HiraKana 10100-10101:CprtLinbCpmn 10102:CprtLinb 10107-10133:CprtLinbLina ",
  "10137-1013f:CprtLinb 102e0-102fb:ArabCopt 10af2:ManiOugr 11301:TamlGran 11303:TamlGran ",
  "1133b-1133c:TamlGran 11fd0-11fd1:TamlGran 11fd3:TamlGran 1bca0-1bca3:Dupl 1d360-1d371:Hani ",
  "1f250-1f251:Hani"]

end ClassMetrics.Unicode
