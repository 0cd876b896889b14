import ClassMetrics.Unicode.Runs

/-!
The age of every code point and its values for the three segmentation properties, Unicode 16.0,
as packed runs of code points that share a value, the names of the values listed first. Ages
are named `V` and the version with an underscore, `NA` for a code point not yet assigned. The
segmentation properties name their values by their short names, `XX` for Other. Beside each table
stand the aliases of its values, as in the alias tables of the database, the name used in the
table first.
-/

namespace ClassMetrics.Unicode

/-- The age of every code point, run by run from code point 0. -/
def ageTable : RunTable where
  names := String.join [
    "NA V1_1 V7_0 V3_0 V6_0 V5_2 V5_1 V6_1 V4_1 V14_0 V4_0 V12_0 V3_2 V11_0 V8_0 V13_0 V9_0 V16_0 V",
    "10_0 V3_1 V5_0 V15_0 V2_0 V15_1 V6_3 V2_1 V6_2 V12_1"]
  runs := String.join [
    "1fmhkj1uhojhshq1ijjqrou1k5phljiq2vhhjqhlj1hq4mhpjhsoqlojqihhjtskmihimighhj1khhhikgnhhghhhg1khh",
    "g2shhmnhhjishhhjhhhjhhhjhhhj1ihi1jhslqkohjshhj4ihhjshhj2phhmijiskj3lhisihisihish1k1shijohioihm",
    "1k1gsk1k1gmilikoihg2mhignhht2nhhthhhjigiihnhg1h1mhot1mqhh1kphh1mjoog1rhkghtlhrgkqhnhilmhohhpql",
    "mhhh1ohphohhhk1qhlm1jhjjjqmohkuhis4ohijlhhjvhhj1uhiqqhljhqujhg1ujjq1rjigjq1uo1im3hjhsug3r1kigj",
    "t2uligvlhg1skighkhgr1ilg1vphgiplgh1hophnhirnmiiuhpo1gqvrphtv1ghu1rnhihljhhq3lhik1ihhlhklhhlik1",
    "phimlkhiili1khoi1khijhhgohigihig1mhhgnhhghhjgkhighhhqnhigihigjhhooghhkgihhglhig1lhhli1ihtighqh",
    "hhqhgmhkgihig1mhhgnhhgihhgihhgihighhhglhkgihigjhjghmngkhhghhngvhhmhtqgjhhgnhhqhhhgjhhg1mhhgnhh",
    "gihhglhigqhhgjhhgjhighhvghhjqigqhhnhqnghum1ihgjhhgohigihig1mhhgnhhgihhghqkhigohhmigihigjhnghvi",
    "hkgihhgjhimigrhhqmkqgihhgmhjgjhhgkhjgihhghhhgihjgihjgjhjgohhojhkglhjgjhhgkhighmmghhughoshoqlgh",
    "ijhhtohhgjhhg1nhhgqhhilhighphmnhhgjhhgkhngihhgimhuighpigihimigqhnghromh1ghiihhtohhgjhhg1nhhgqh",
    "hglhigiqnhhgjhhgkhngihmghphhhgihi1kigqhhgi1kh1lsgh1ihiihhvohhgjhhg1nhhk1ghhki1ihmmhhmhgjhhgkhh",
    "kh1gkgj1ghhn1ghuihimigqhmmj1gnmhghvijhg1ijjg1ojhgpjhghjignjjghjkgmjhghjhgojmgqiigjjsg3qhkg1th2",
    "lgihhghhhghrihhrhhhghrhhmrkhhrnhhrjhhghhhghhirihhrthhrjhiglhhghhhgmhh1lhgqhigihin2gg4o1mhg2h1m",
    "hjimkg1r1mkkm1mhjh1mhg1l1mjjn1mhjh1mjjhgvjhghmhjiojmklik2lg2ijhmljhmijhmnjjmkjmm1qj4gmklim2mhh",
    "ghnlghnig2nhisiohhhojn5qhll4khll5ihmlnjho3vjhohjhgkjignjhghjhgkjig2njhohjhgkjig1vjhohjhgkjignj",
    "hghjhgkjignjhonjhg1njho1vjhohjhgkjignjho2njho1jjigikio1sjjg1qomg5ljhuigmuighl27mjpl1tjjg5hjoin",
    "gtshpnshppghp1nspg1kssgtshgjshgissg5tjhqigqjmgqqmgvjhpqjmg5ojhtng2qjhmlg4mlqg1tqiihgsqkgsqkghq",
    "jg2qqiglqrg2qoilkg1qomgqohljgio2gq1soigio3vlhg1tligrlmgqlmguligviivup3hg4s1khphgi1h2t1kiph1h2r",
    "mjnsmmn3kkogkk3omjgvmjg3jmp1gi1hlg2rtigjtonog2jlknh1iiihrlg6sq5oon1k1smvik1ihph1ghkhli1k9rhh1m",
    "km5qhmm1mhigmhig2mhigmhigohhghhhghhhghhhg1vhig3lhhgvhhguhigmhhg1jhigjhhgphhg2vhhj1nhhsmjlsiqio",
    "hsnolshmhgk1onhhsig1rhhglookjgrhh1mh1pjjiskojlhkh1qjihuh1ihpvg1ihijnshok1khmvg3phijhqhovshoi1k",
    "hmjl3ghhjh1kkmhliukg5rhpjssfihushhhj7phhjhs1uj3ksiqros1khlrknik1gh1i2lhijj1h1mgrh1lg8rh1kshq9m",
    "hqs5ghojos1khiqishohj5mhijssioqsoqrohmiliq1goh1kqmjlkmqlhk1jlhkhlkk1olhikhhkkhik1shhk2jhhkhhhk",
    "khjkhhhlnhiknhus1vhjk1ohhkuhhknok1khnhmhnik1sskm1gs10gj20gsuqmon1klmk1k2pmjilmll1qiig2gihghv2i",
    "ijtsihroih1i1ptkuvthr2vohp2vohpt1kjmhljmk1kmmil6ronlinlg2tohghnlghnig3moinnghohkughk1nopgnohgn",
    "ohgnohgnohgnohgnohgnohgnohg2gm1ookmio1jmhlqnnii1gl1ilthrjvrp2ig1qjhg5pjsgdmj1qgsjk1n3ohjjjshjh",
    "hhg5khisigmhis5uhhslg2ohhmh1ihthg5uhhg1gh1ojjklv1go1kmi1hpgh1n1gs1thiqhg2khslhqvs1shiqho3ihvss",
    "hkq2vhh1r7nhkq6jhiq1vhhq19bmjqv4gq51amh1moomolhnpu1l1ilttvjp48tjjg1ijis1gjhssjhsjjhshjpg3gl12s",
    "m1kg2gmik1imon1smmihuhn5olog1nok1klmi1k6rmikhuikinsiqkhnjih1ghtiimuitmriplrkvj1higiphghphglpj1",
    "h1lgjpivhiinhklm2sohvjgqlmg3o1kog4lmh1gogsmmg1sliuit5kmrghm1tljg4ulhgrlkgil1vihg3nmpgumigqmigk",
    "m1slki4jl1ogll1nnqgmkigmkigmkpgnkhgnkhg3gikuiiirkvkg5gu2uligqlmg2bak1msg1nlkg3hlkg80g1m1a2uhin",
    "3rsjlig6qo2mgnhsglhlghj1phhglhhghhhgihhgihhg6sh1gkhp1gg16th1gp4ghig3mhnghp2g1jshhshqip1gsqomgk",
    "hjmniiu1lhisiqqhhg1jhhgkhkgjhhshhhg8nhighhhg5uhis5uhjgmhigmhigmhigjhjgnhhgnhqgjjh1pjhsqhg1qqhg",
    "1jqhgiqhgvqiguq2ig7rqlgjqkg2tqjgpq4roiii1ghgsmhvjghi2vg2um8ig1tmjg3hmvg1sikg1v1jhik1jpgj1i1r1j",
    "lg2rilg1uqhghq2kokguo2qg2m1jiq2m1j5gqigqqmg2k1gkg2k1gkg2oiog3kirghirphgvphgnphgiphgrphgvphgnph",
    "gipjg3k1hsg13nipg1miqgoi1ogmphg2qphgpp4lgmqighqhg2sqhgiqjghqighq1mlhgpl3viogpi3gg1juhgiulglu1q",
    "1kiljgh1k1qmlghm4gg3onkgiuin1guig2uukohgiolgoohgjohg1roitigjokgpohtngpong2gl2gi2gg2nikgsipg3ml",
    "jg1tlig1rllgol1iingkisgni5gg4pl3ng3jutg3jungmu2otogqtmg2m1hjg1t1hogi1hdgg1vlhg2qvhgjvigiv1ggj1",
    "h3ngh1hj1l2otog2qt1mg1qp2mg1sv1kg1nrpg4ukkg1ukmppghi4ilhpqghtig1pnngqnmg3lnhgunjthvog2nipg4pnk",
    "uhiivqnhiluhg1kirg1iihg2rih1gj1l3ugnuhghuhgkuhgvuhgrumg3rilgqimghujihgoiigiiig1mihgnihgiihglih",
    "ghtpiigiiigjiighumghilgniignijglirgq1hhgh1high1hhg2m1hhgq1hhgh1high1hhgk1hhgq1hhgi1hogi1h1tg5q",
    "1ghvh1ghgh1ghthriv1ug4oiogqiamg3miig1ii1ku2ig4lirgqimgt1g1jg3onhrhpmgqnmg1k1h1sg1quhtigvukg1gu",
    "npbpg3st6kg5jisghinvighvigovhgivhg1uvhgivigsvpgqv4mgorig2urigrr1rg4o1iog3k1iir1n1ihtl1itg1gp3p",
    "ingq1lbmg2i1hugq1hmgp1ghg2t1ghgu1gqg1t1gjg2g1gig1m1ghgu1g4pgn1ihgi1ihg2s1ijgh1ihgi1ihgp1iogq1i",
    "mgmthgithg2lthgithgmtngqt13mg1ptng1h1lhg2p1ljg1s1lh1h5lghvvg3irtghr36v1k2qihu6mg6j1ksihgk1khir",
    "gckua4sg6jptg42vlh1lpr1t1lqgf9r1hlg24nu1abpg3q1h6cmg23pkng1vihgqikgii4vphgqpmg1uiigmiqg4miqgqi",
    "hgnihg1lilg1ji1bgg3q1hcmg5rt6lg4lnmrkghr2vnprng1hn4ggh1gh1iirhvrgivug17et1gltmrog2fj1g1ejv2pgh",
    "1hpv22engkphgnphgiphgik11t1ikpvgh1l1tgjrigh1lugkrog18s1i90kg6rilgtijgpingqiigoif5sgfq1hmg1bk1h",
    "4sg2upig1nppg7kp3sgfm1jqg2n1jighmbk1jruip1lg4mo7qg1k1lsg1ktsg5nqpg1i1knt8ng5l1jhg4n1jhgi1jigh1",
    "jigi1jigk1jhgs1jhgh1jhgk1jhqi1jhg4h1jhgk1jigo1jhgn1jhg1s1jhgk1jhgl1jhgh1jjgn1jhg15i1jioig12i1j",
    "i1kig3i1j28suvgluhgvu45gg1vpmgm1ldlgn1ghg1h1gign1ghgi1ghgl1glg3u1l2hgh1l7gg2trjgurigqrkgir14gg",
    "1vp1hg3qrlghr1dgg2q1ldmg2r1hkgh1h1eggnphgkphgiphgvphgcliig1gi2pg4r1ghrkgq1gkgi1g31hg4kt4sg3trc",
    "igknhg1rnhginhghnighnhgqnhgknhghnhghnmghnkghnhghnhghnhgjnhginhghnighnhghnhghnhghnhghnhginhghni",
    "gknhgnnhgknhgknhghnhgqnhg1hnlgjnhglnhg1hn3kgin10ug2smkg6kmsgvkigukhihgvkhgvk1miqgrliijv1vlhthk",
    "hlrkhlhkhlikhljkhljkllokhlnkhlqkinhrjvpkhlhkilikhlqkklikhlqk1i1ghv3og1qkhliktg2ilpkh1gkgplngik",
    "ugm1i9qg2hksijumkhi4mkhiiu1kksi2lkhilkkilusi1hkniou3vkhihkhibmkhikkiihu3ukiiknnilu1ok1iih1g2pi",
    "h1g5milkhn1gkhnjkhnhkhnhkhnhkhnjkhnmkinkkhnhkinkkhnskiiiurk3gi4mkqihui1gi1ihrivkgh1ljptijgkij1",
    "gi1ihthrivjg7kkj1lkgl1l5likth1lmgsrkghpvgsikg3oiogqimg2oiog1uiigivq1hkgi1h3ugs1ihvjrpum1gh1io1",
    "go1ih1gi1is1ghrs1gh1ijtv1gt1ilthrhvktivhphthrktlut1gm1irtivmrjvirqtmrhuitorhvhpjr1n1i1pt5krsgu",
    "tigkrhvj1ljripjgjrkvi1lh1hlgh1hmr1jvkpj1lnvkpj1lh1hh1ljvjph1hngi1lnvjpi1lh1high1hoph1lh1hmgnpi",
    "1lng9jvhg3nv2l1hqv40kgi1ma6dn1jnvip2gg103llkph1lmgdukig168iuug1d3h1ivg26u1n9aig21u1j5eggi1m134",
    "rvlg106g1ldc4ugi1mfffugi1mfffugi1mfffugi1mfffugi1mfffugi1mfffugi1mfffugi1mfffugi1mfffugi1mfffu",
    "gi1mhgh1j1ug6g1j8ggfgqfe0ug2000i1m"]

/-- The aliases of every age, oldest first. -/
def ageAliases : String :=
  String.join [
  "V1_1;1.1 V2_0;2.0 V2_1;2.1 V3_0;3.0 V3_1;3.1 V3_2;3.2 V4_0;4.0 V4_1;4.1 V5_0;5.0 V5_1;5.1 ",
  "V5_2;5.2 V6_0;6.0 V6_1;6.1 V6_2;6.2 V6_3;6.3 V7_0;7.0 V8_0;8.0 V9_0;9.0 V10_0;10.0 V11_0;11.0 ",
  "V12_0;12.0 V12_1;12.1 V13_0;13.0 V14_0;14.0 V15_0;15.0 V15_1;15.1 V16_0;16.0"]

/-- The grapheme cluster break of every code point, run by run from code point 0. -/
def graphemeBreakTable : RunTable where
  names := "LV LVT EX XX SM CN PP V L T LF CR ZWJ RI"
  runs := String.join [
    "qlhqilhr1il5vj2hltjhl25ij7gi11jjni10nj2tihjhihjiihjiihjhi3ojmmqjrihjhl2uj1li1gjhi6ljnihmhjmiij",
    "iihjki2hjhmhjhi1uj1ri5rjri3qjpipjhi1ojkihjpihjjihjli2rjji3kjimljpi2qj1oihm2gihk3mjhihkhihjjkoi",
    "kkhiikhjniqjii1tjhiik3ojhihjhiikkiijikijikhipjhiqjii1qjhiijiihk3ojhihjjkiikjiiijjijjhi1ujiijjh",
    "irjiihk3ojhihjjklihjiihkhjikhi1kjii1mjmihjhiik3ojhihjiihkkiijikijikhinjjiqjii1ujhi3rjhihkhiikj",
    "jjkhjjkhipjhi2ojhijkhi3njhihjjikkhjjihjkinjiirjii1tjhiik3ojhihjhkiihkhiikhjjihjkinjiirjiivjhks",
    "jiiik3njiihjhiikkihjjkhjjkhihmojhiqjii1tjhiik4mjhikjhiikjihjhihjnkhi1ijik3tjhihjhknisjoi6ijhih",
    "jhkpirjni4pjii1rjhihjhihjhikjik3hjuihklihjiiljrihj2kipjhi6mjkihkmihjiiikii1njikiikjji1gjkitjhi",
    "hjhkiimjhivjhi6ij6go4on5op15tjji3bijki1sjji1tjii1ujii4gjiihkniokhiikripjhi2tjjihlhi7ljii2ijhi7",
    "mjjikkiijkkjikhimkjidrjiiikhi3pjhkhihknihjhihjhiijoimkqiijhi3gj1vi3hjkihk2vjqikkji2mjpisjiihk1",
    "ujhkkiikmi3ojhihkiijkhihkli3gjokoiikii9ojjihjtihknikjhimjhiijhkiicmj4gi20rjhlhihsil1ojnl3hj1gl",
    "6gj2hibfujji8tjhi6gj2gi22qjmi6pjii75dkjkihjqi2gjii5gjii11gjhijjhikjhi1njikiihkkjhi5jjik3ij1gki",
    "i1qj1iitjhi2mjoi1pjrihkhisj1tojjjihk2vjhiikkiikiiikhi2kjhi4jjmiikiiikiisjhiojhihk2ujhi3jjhihjj",
    "iijiiljiihjhi2pjhkiiikljhkhiesjikhiikhiikhjhkhi1ijhg1rhhg1rhhg1rhhg1rhhg1rhhg1rhhg1rhhg1rhhg1r",
    "hhg1rhhg1rhhg1rhhg1rhhg1rhhg1rhhg1rhhg1rhhg1rhhg1rhhg1rhhg1rhhg1rhhg1rhhg1rhhg1rhhg1rhhg1rhhg1",
    "rhhg1rhhg1rhhg1rhhg1rhhg1rhhg1rhhg1rhhg1rhhg1rhhg1rhhg1rhhg1rhhg1rhhg1rhhg1rhhg1rhhg1rhhg1rhhg",
    "1rhhg1rhhg1rhhg1rhhg1rhhg1rhhg1rhhg1rhhg1rhhg1rhhg1rhhg1rhhg1rhhg1rhhg1rhhg1rhhg1rhhg1rhhg1rhh",
    "g1rhhg1rhhg1rhhg1rhhg1rhhg1rhhg1rhhg1rhhg1rhhg1rhhg1rhhg1rhhg1rhhg1rhhg1rhhg1rhhg1rhhg1rhhg1rh",
    "hg1rhhg1rhhg1rhhg1rhhg1rhhg1rhhg1rhhg1rhhg1rhhg1rhhg1rhhg1rhhg1rhhg1rhhg1rhhg1rhhg1rhhg1rhhg1r",
    "hhg1rhhg1rhhg1rhhg1rhhg1rhhg1rhhg1rhhg1rhhg1rhhg1rhhg1rhhg1rhhg1rhhg1rhhg1rhhg1rhhg1rhhg1rhhg1",
    "rhhg1rhhg1rhhg1rhhg1rhhg1rhhg1rhhg1rhhg1rhhg1rhhg1rhhg1rhhg1rhhg1rhhg1rhhg1rhhg1rhhg1rhhg1rhhg",
    "1rhhg1rhhg1rhhg1rhhg1rhhg1rhhg1rhhg1rhhg1rhhg1rhhg1rhhg1rhhg1rhhg1rhhg1rhhg1rhhg1rhhg1rhhg1rhh",
    "g1rhhg1rhhg1rhhg1rhhg1rhhg1rhhg1rhhg1rhhg1rhhg1rhhg1rhhg1rhhg1rhhg1rhhg1rhhg1rhhg1rhhg1rhhg1rh",
    "hg1rhhg1rhhg1rhhg1rhhg1rhhg1rhhg1rhhg1rhhg1rhhg1rhhg1rhhg1rhhg1rhhg1rhhg1rhhg1rhhg1rhhg1rhhg1r",
    "hhg1rhhg1rhhg1rhhg1rhhg1rhhg1rhhg1rhhg1rhhg1rhhg1rhhg1rhhg1rhhg1rhhg1rhhg1rhhg1rhhg1rhhg1rhhg1",
    "rhhg1rhhg1rhhg1rhhg1rhhg1rhhg1rhhg1rhhg1rhhg1rhhg1rhhg1rhhg1rhhg1rhhg1rhhg1rhhg1rhhg1rhhg1rhhg",
    "1rhhg1rhhg1rhhg1rhhg1rhhg1rhhg1rhhg1rhhg1rhhg1rhhg1rhhg1rhhg1rhhg1rhhg1rhhg1rhhg1rhhg1rhhg1rhh",
    "g1rhhg1rhhg1rhhg1rhhg1rhhg1rhhg1rhhg1rhhg1rhhg1rhhg1rhhg1rhhg1rhhg1rhhg1rhhg1rhhg1rhhg1rhhg1rh",
    "hg1rhhg1rhhg1rhhg1rhhg1rhhg1rhhg1rhhg1rhhg1rhhg1rhhg1rhhg1rhhg1rhhg1rhhg1rhhg1rhhg1rhhg1rhhg1r",
    "hhg1rhhg1rhhg1rhhg1rhhg1rhhg1rhhg1rhhg1rhhg1rhhg1rhhg1rhhg1rhhg1rhhg1rhhg1rhhg1rhhg1rhhg1rhhg1",
    "rhhg1rhhg1rhhg1rhhg1rhhg1rhhg1rhhg1rhhg1rhhg1rhhg1rhhg1rhhg1rhhg1rhhg1rhhg1rhhg1rhhg1rhhg1rhhg",
    "1rhhg1rhhg1rhhg1rhhg1rhhg1rhhg1rhhg1rhhg1rhhg1rhhg1rhhg1rhhg1rhhg1rhhg1rhhg1rhhg1rhhg1rhhg1rhh",
    "g1rhhg1rhhg1rhhg1rhhg1rhhg1rhhg1rhhg1rhhg1rhhg1rhhg1rhhg1rhhg1rhhg1rhhg1rhhg1rhhg1rhhg1rhhg1rh",
    "hg1rhhg1rhhg1rhhg1rhhg1rhhg1rhhg1rhhg1rhhg1rhhg1rhhg1rhhg1rhhg1rhhg1rhhg1rhhg1rhhg1rhhg1rhhg1r",
    "hhg1rhhg1rhhg1rhhg1rhhg1rhhg1rhhg1rhhg1rhhg1rhhg1rhhg1rhhg1rhhg1rhhg1rhsj1nnkj3hp232ijhi2ehj1g",
    "i1gj1gicvjhl9ujii5gjsl20hjhieijhi9ljli68mjjihjiiljki2ojjikjhialjii23tjki4hjli13tjii4vjki4mjri3",
    "hjki7qjhkhihk3ljvi2pjhiijiiqjjihk2tjjkkiikiiijhmkjhiqjhm3ijji2kjlihkoi1gjik2sjhisjiihk3gjjkpih",
    "khihjimljkihjhkhi5sjjkjiikkimjhiijhi9tjhijkoi1ljiiik3njiihjhihkhikkijikijikhipjhiqjikijnijjli4",
    "jjhiikmihjhiijhihjjihkhjikjihmhiujii5ijjkoiikjihkhi1njhi5hjhiikmihkhiikhihkiihkiierjhiikkiijkk",
    "iihkii1rjii5ijjkoiikhihkii6qjhihkhiikoi6ljhihkhiijkihkli10gjjkpihkiifljhilkhjikijkihmhkhmhkhi8",
    "tjjkkiijiikkhijjhk1sjqi2ojmihkhmkiojhipjmiikji2ojmmtihkii19ljhknihjmihkhi5ij1mihjhknihkiihkii7",
    "qjmijjhihjiihjnihmhi4ijlkhjiihjikhihkhi15rjiiikpjiihmhk3gjiklijjikji1njhi14dlj1glhimjvi2ccojsi",
    "jkji9cgjli3rjni22sjhnjjkn1ekjhihj3nknjki5hjhirjii4carjiihjkl125sj2uiij1ni21ujlijjmioloiijni1uj",
    "ki9kjji7brj3nikj3iiojhiujhi1mjlihjvi55gjnihj1hiijnihjiihjli6kjhiagjni17njhi3tjki1fsjkifujii2eg",
    "jni6tjni89rj1qt1frjlic0c0gj2gl6gi8glfgie1gl2f00gj"]

/-- The aliases of every grapheme cluster break value. -/
def graphemeBreakAliases : String :=
  "CN;Control CR EX;Extend L LF LV LVT PP;Prepend RI;Regional_Indicator SM;SpacingMark T V ZWJ"

/-- The sentence break of every code point, run by run from code point 0. -/
def sentenceBreakTable : RunTable where
  names := "XX LO UP LE EX ST NU CL SC FO SP AT SE LF CR"
  runs := String.join [
    "pghqhtiqhu1ighqhlhnkgjnigiohrhgqmiojghlhg1qihnhghnjg1qhhnhghnnghs1qghqpghhhnhghpnghhkghhhnkg1n",
    "ihgni1ohhgohhihhhihhhihhhihhhihhhihhhihhhihhhihhhihhhihhhihhhihhhihhhihhhihhhihhhihhhihhhihhhi",
    "hhhihhhihhhihhhihhhihhhihhhiihhihhhihhhihhhihhhihhhihhhihhhiihhihhhihhhihhhihhhihhhihhhihhhihh",
    "hihhhihhhihhhihhhihhhihhhihhhihhhihhhihhhihhhihhhihhhihhhihhiihhhihhhijhiihhhihhiihhjiihkihhii",
    "hhjijhiihhiihhhihhhihhiihhhiihhihhiihhjihhhihhiiihhjhijhkjiihhiihhiihhhihhhihhhihhhihhhihhhihh",
    "hihhhiihhihhhihhhihhhihhhihhhihhhihhhihhhiihiihhhihhjihhhihhhihhhihhhihhhihhhihhhihhhihhhihhhi",
    "hhhihhhihhhihhhihhhihhhihhhihhhihhhihhhihhhihhhihhhihhhihhhihhhihhhihhhihhhinhiihhiiihhihhkihh",
    "hihhhihhhihhhi4lhhj2khnjihkgsjuglhnghjhghj1hg7gkhihhhihhhjhghihhigkhhohimghihgjihghihgiihh1hih",
    "gpi2jhhiihjijhhihhhihhhihhhihhhihhhihhhihhhihhhihhhihhhihhhilhhihhhghihhiiih3ji3ghhihhhihhhihh",
    "hihhhihhhihhhihhhihhhihhhihhhihhhihhhihhhihhhihhhihhhihhhgnkhihhhihhhihhhihhhihhhihhhihhhihhhi",
    "hhhihhhihhhihhhihhhihhhihhhihhhihhhihhhihhhihhhihhhihhhihhhihhhihhhihhhihhiihhhihhhihhhihhhihh",
    "hihhhiihhihhhihhhihhhihhhihhhihhhihhhihhhihhhihhhihhhihhhihhhihhhihhhihhhihhhihhhihhhihhhihhhi",
    "hhhihhhihhhihhhihhhihhhihhhihhhihhhihhhihhhihhhihhhihhhihhhihhhihhhihhhihhhihhhihhhihhhihhhihh",
    "hihhhihhhihhhg2miighjjghoig2phhlng2tkhghkhgikhgikhghkog1rjkgljsgmmmgioigrkhghpjl2rj1lkqmhgimhg",
    "ijhk6jjhlhjnkhmhgmkijikhgkkijqmjjighjjlsghphjhk1uj1rkig5pjrkhjugqm2hjpkijighohlhjighkig1mjkkhj",
    "pkhjjkhjlkpghlhghljgilhg1pjjkkgrjlg1ojhgmjhgimlgpk2qj1okhm2hk3mjjkhj1ikhjnkqjikilqmhg1gjjkhgoj",
    "igijig1mjhgnjhghjjgkjighkhjnkigikigjkhjoghkkgijhgjjikigqmijqghjhghkigjkhgmjkgijig1mjhgnjhgijhg",
    "ijhgijighkhglkkgikigjkjghkngkjhghjngqmikjjhkrgjkhgpjhgjjhg1mjhgnjhgijhgljighkhjokhgjkhgjkighjv",
    "gijikigqmpghjmkhgjkhgojigijig1mjhgnjhgijhgljighkhjnkigikigjkngjkkgijhgjjikigqmhghj1gghkhjhgmjj",
    "gjjhgkjjgijhghjhgijjgijjgjjjgsjkglkjgjkhgkkighjmghkugqm1gglkojhgjjhg1njhg1gjighkhjnkhgjkhgkkng",
    "ikhgjjighjigijikigqm1gghjjkhgojhgjjhg1njhgqjhgljighkhjnkhgjkhgkkngikmgijhgijikigqmhgijhksgkkpj",
    "hgjjhg2pjikhjnkhgjkhgkkhjlgjjhkngjjikigqmqgmjhgjkhg1ijjg1ojhgpjhghjignjjghkkgmkhghkhgokmgqmigi",
    "ktg3gjhkijnklgnjokhgqm2ngijhghjhgljhg1ojhghjhgqjhkijpkhjigljhghjhgnkhgqmigkj2gghj1ngikmgqmrghk",
    "hghkhghkknikojhg2kjkg1kkhgikljrkhg2kkpghk3pg2rj1kkhjqmilkgmjkkkjjkhjjkijnkjjkktjskhjhkqmkkig2m",
    "ihghilghiig2rjhghh14sjhgkjignjhghjhgkjig2pjhgkjig2hjhgkjignjhghjhgkjigvjhg3pjhgkjig4jjigjkighl",
    "kgil1ng1gj1gg5miigmhjg26sjhghl1hjhq1qjinjg4rjjgrjng1ijkkpg1jjjkilpg1ijiksgtjhgjjhgiksg3kj2gkil",
    "hghjkghjhkigqm1oghohlkghohlhgjkhphkqmmg5pjngljik2ijhkhjlg4mjqg1vjhgskkgskogilqm1ujigljrg2sjkg1",
    "qjmgrm2lg1njlkkg3ljqkhg1tkighkqmmgqmtghjklkg1vk3hglk2vj1hkojhgilqmiligilrgpkpgjljk1ujtkijqm2sj",
    "uksg2kj1kkjgiljgqmjgjjqm2kjilphhihhlg2rjigjj1ggjkhg1lkkjhkmjhkijjkhjlgcgh4gkhihhhihhhihhhihhhi",
    "hhhihhhihhhihhhihhhihhhihhhihhhihhhihhhihhhihhhihhhihhhihhhihhhihhhihhhihhhihhhihhhihhhihhhihh",
    "hihhhihhhihhhihhhihhhihhhihhhihhhihhhihhhihhhihhhihhhihhhihhhihhhihhhihhhihhhihhhihhhihhhihhhi",
    "hhhihhhihhhihhhihhhihhhihhhihhhihhhihhhihhhihhhihhhihhhihhhihhhihhhihhhihhhihhhihhhihhhihhhiph",
    "hihhhihhhihhhihhhihhhihhhihhhihhhihhhihhhihhhihhhihhhihhhihhhihhhihhhihhhihhhihhhihhhihhhihhhi",
    "hhhihhhihhhihhhihhhihhhihhhihhhihhhihhhihhhihhhihhhihhhihhhihhhihhhihhhihhhihhhihhhihhhihhhihh",
    "hihhhiphoimhigmiigohoiohoimhigmiigohhghihghihghihghiohoiuhigohoiohoiohoilhhgihlihghhjgjhhgihli",
    "jgkhigihkikgohlilgjhhgihlijgrqhpikipjgiojgonkghrjgislphqpginhgilnginjl1lghqlphgqphghhrginhhtgi",
    "nhgth3jg2hk1hghikghiighhjiihjihhhghijglimghihghihghihgkihghhkihhkjhhigihiilghikhkghh1hg1gi1ghj",
    "jhihhkj17vgkn1tgin18rg1qi1qh27hgmnngun4vgin1vgqn19jg1mn3vgkn2ggin20ig3gi3ghhihhjiihhihhhihhhih",
    "hkihhhiihhiohjihhhihhhihhhihhhihhhihhhihhhihhhihhhihhhihhhihhhihhhihhhihhhihhhihhhihhhihhhihhh",
    "ihhhihhhihhhihhhihhhihhhihhhihhhihhhihhhihhhihhhihhhihhhihhhihhhihhhihhhihhhihhhihhhihhhihhhih",
    "hhihhhihhhihhhihhhihhhiihmghihhhihhjkhihhlgjlkg2mhhghhlghhig3ojnghjvghk1njpgnjhgnjhgnjhgnjhgnj",
    "hgnjhgnjhgnjhg2gkunuginigqnkghlhjsghllghn1ggilon1ajghqhohligjjqnigonhgjnhgpjmkhgljigljkg5mjigi",
    "kigjjhg5qjhgkjlg2rjhg5uj1hg2gj3gg1gj20gg19cgj4gg568tj4jg2ujhghl10tjhgil1gjqmij1kghihhhihhhihhh",
    "ihhhihhhihhhihhhihhhihhhihhhihhhihhhihhhihhhihhhihhhihhhihhhihhhihhhihhhihhhihhhjkkhgqkhghjhih",
    "hhihhhihhhihhhihhhihhhihhhihhhihhhihhhihhhihhhihhhijhik5gjikhghljghl1vgpjighihhhihhhihhhihhhih",
    "hhihhhijhhihhhihhhihhhihhhihhhihhhihhhihhhihhhihhhihhhihhhihhhihhhihhhihhhihhhihhhihhhihhhihhh",
    "ihhhihhhihhhihhhihhhihhhihhhihhhihhhiqhhihhhihhiihhhihhhihhhihhhihhhjighihhhihhhjhihhhijhhihhh",
    "ihhhihhhihhhihhhihhhihhhihhhihhhihhlihhlihhhihhhihhhihhhihhhihhhihhhihhkihhhihhiihhighihhhghhh",
    "ghhhihhhihhhihhhi1lgjhhihhhjjhnjhkjjhkkjhk1njlkkghk1jg3kjigilogik3ij1ikogilqmmg1ikmjjghjhgijhk",
    "qm1sjokhghl1njtksg1tjjgkk2vjukngillghjqmmgljhkqjqmljhg2pjukpgjjhkojikigqmjgjl1njjghjjk3ijhkhjj",
    "kijikljikhjhkhj1ogjjigrjlkiljjikqgmjigmjigmjpgnjhgnjhg2rhhguhmg5gh2jjokhlikigqmmg2bakjsg1njkg3",
    "hj210kg16ujig6qj2mgnhsglhlghjhkqjhgtjhgljhghjhgijhgijhg6sj2hg16rjin1gg4gjig3mj2ogsjkg1gkiohlio",
    "ilinng1gkhgioig1gniginngiohrhgioilhomnkghosgljhg8njighphghlmginigiohrhgqmiojghlhg1qihnhghnjg1q",
    "hhnhghnhginhlinhohg3ojik1vjjgmjigmjigmjigjj1sgjpkgsjhg1qjhg1jjhgijhgvjiguj2ig7rj4lg3lj8oghk8ig",
    "1tjjg3hjvghk1vg2gjtg1ujlg2mjlklg1ujig2kjkgojhglj2qg2oi2oh4ujigqmmg2kikg2khkg2ojog3kjsgrihgvihg",
    "nihgiihgrhhgvhhgnhhgihjg3kjsg13njpg1mjqgoj1oghhijjhhg2qhhgph4lgmjighjhg2sjhgijjghjig1njqg1njpg",
    "1vj4hg1jjhgijqg1mjqg1qj4mg3ojmgij4gghjjkhgiklgkkkjhgjjhg1tjigjkkghk1mgilog1tjjg1tj2jgojhg1sjik",
    "1pg3mjqg1mjqg1jjtg1ij6ug4pj3ng3jitg3jhtg2kjkkogqmmgqmmj1mijglkhghj1mhfqg2qjhgikjgij1ggjj3ngkk1",
    "tjqghjog1mjrkkgll1mg1ijkkkl2mg1lj1rg1njpgjk3ljvkil1tgqmhkijikhjpgkk2tjrkighmklhkqghmig1pjngqmm",
    "gjk2kjukhgqmhgjlhjikhjog2jjhkighjpgjk3gjukkjiligkkhlikqmhjhghjhgil2gg1ijhg1pjskilhgilhghkijhk3",
    "ugnjhghjhgkjhgvjhgqjhlmg2vjsklgqmmgkkhgojigijig1mjhgnjhgijhgljhgikhjnkigikigjkighjmghklgljikig",
    "nkjglkrgqjhghjighjhg2mjhghjpkhghkighkhgkkhglkhjhkhjilrgik1tg3lj1ikkjiljgqmkghkjj1ug3gj1kkijhgh",
    "jogqmamg2vjnkigpkhgillgvlkjik2ig3gj1hkilhghjrgqm2mg2rjtkhjngqmmg1km1sg1rjigvkkgqmigjlhgnjbpg2s",
    "jvk6lg2gi2ghqm1lgojighjigojhgijhg1ojmkhgikigkkhjhkhjikhlhghlpgqm4mgojig2njnkignkhjhghjhk1rghjq",
    "k2ojnkhjkkjgiljghkoghjrk2uj1gkhgilhj1ig4pjcng2hjvgqmmgpjhg2ljokhgokhjiltgqm1og1ujig1mkhguk4pgn",
    "jhgijhg2mjmkjghkhgikhgnkhjhkogqmmgmjhgijhg2gjlkhgikhglkhjngqm13mg1jjkkilngikhjhktjhg2ijnkjglki",
    "lrgqmhk5lghj4vg39qj6mg6vj1hgckja4sg6hjvg43gj1gphkmjvkqgf9rjlg24nj1abpg1uj1ikqm6cmg23pjng1vjhgq",
    "mkgil4vjhgqmmg1ujiglkhlqg3gjnkilngkjhlrgqmpg1ljlg1jj1bgg2tjhgilqmcmg2gi2gh1oghl6ng4rjkghkhj3nk",
    "ngkktj4ggijhghjhkrgikug17fojog4dmj2pgqj22engkjhgnjhgijhg12jjvghj1tgjjighjugkjog18sj90kg6rjlgtj",
    "jgpjngqjjgikhlkp104sgqm20mg2ukig1nk21uglkjgmkopokignk1ugkk9kgjk1brg1qi1qh1qinhhg1ih1qi1qhhihgi",
    "iighiigiiigkihgoikhhghhhgnhhgrh1qi1qhiihgkiigoihgnihg1qhiihgkihglihghijgnihg1qh1qi1qh1qi1qh1qi",
    "1qh1qi1qh1qi1qh1qi1shig1pihg1phhgmh1pihg1phhgmh1pihg1phhgmh1pihg1phhgmh1pihg1phhgmhhihhig3im20",
    "gg3nkkg3ikoghkughkjghl1iglkhgvk45ggqhhj1khmgmhdlgnkhg1hkignkhgikhglklg3uh2hghk7gg2tjjgnknjigqm",
    "kghj14hg1ujhk1hg2sjkkqm1dmg1sjkkqmdmg1ujikhjqm1elgnjhgkjhgijhgvjhgcljrgnk2pg2ii2ihnkhjkgqm4amg",
    "kjhg1rjhgijhghjighjhgqjhgkjhghjhghjmghjkghjhghjhghjhgjjhgijhghjighjhghjhghjhghjhghjhgijhghjigk",
    "jhgnjhgkjhgkjhghjhgqjhg1hjlgjjhgljhg1hj27kg1qimg1qimg1qi4esgjn57ngqm40mga6egj2gg103qjmgdujig16",
    "8ijug1d3hjvg26uj9aig21uj5eig134rjlg106gjadc5hghp1ug6gk8ggfgk2fe1gg"]

/-- The aliases of every sentence break value. -/
def sentenceBreakAliases : String :=
  String.join [
  "AT;ATerm CL;Close CR EX;Extend FO;Format LE;OLetter LF LO;Lower NU;Numeric SC;SContinue SE;Sep ",
  "SP;Sp ST;STerm UP;Upper"]

/-- The word break of every code point, run by run from code point 0. -/
def wordBreakTable : RunTable where
  names := "XX LE Extend NU KA FO MN HL ML EX WSegSpace MB NL LF CR DQ SQ ZWJ RI"
  runs := String.join [
    "qghtishu1ighqhghvkgh1gkghmhghrhgqjhohmlg1qhkghphg1qhqghs2kghhighlnghhhghoighhlg1nhhg1vhhg1eghm",
    "g2ih7gilhhgihigkhhmhhmghhhojhhghhhg1khhg5jhhg8rhhgniamhhg2mhigkhhghhho2phhmhhmg2tihghihgiihgii",
    "hghiog1rnkgknhhhorgmjmgimigrihghljg2rh1liqjhghjhmhgihhi6jhhghhnihjhgmiihiihgkiihqjjhighhvgihhi",
    "1uh1riig5phrihhugqj2hhpiihighmhghhighiig1mhkihhpihhjihhli1ig1phjikgrhlg1ohhgmhhgijlgpi2qh1oihj",
    "2hi3mhjihh1iihhniqhiiigqjhg1ghjihgohigihig1mhhgnhhghhjgkhighihhniigiiigjihhoghikgihhgjhiiigqji",
    "hqghhhghiigjihgmhkgihig1mhhgnhhgihhgihhgihighihglikgiiigjijghingkhhghhngqjiijhhirgjihgphhgjhhg",
    "1mhhgnhhgihhglhighihhoihgjihgjiighhvgihiiigqjpghhmihgjihgohigihig1mhhgnhhgihhglhighihhniigiiig",
    "jingjikgihhgjhiiigqjhghh1gghihhhgmhjgjhhgkhjgihhghhhgihjgihjgjhjgshkglijgjihgkiighhmghiugqj1gg",
    "liohhgjhhg1nhhg1ghighihhnihgjihgkingiihgjhighhigihiiigqj1gghhjihgohhgjhhg1nhhgqhhglhighihhnihg",
    "jihgkingiimgihhgihiiigqjhgihhisgkiphhgjhhg2phiihhnihgjihgkihhlgjhhingjhiiigqjqgmhhgjihg1ihjg1o",
    "hhgphhghhignhjghikgmihghihgoimgqjigii3tghiignisgoihgqj5nghiigpirgnihgqj2mghh1ngiimgqjrghihghih",
    "ghikgiiohhg2khkg1kihgiilhrihg2kipghi6kg1kihgqjsgkikgjihgjiignijgkitgsihghiqjkiig2mhhghhlghhig2",
    "rhhg14thhgkhignhhghhhgkhig2phhgkhig2hhhgkhignhhghhhgkhigvhhg3phhgkhig4jhigji2gg1gh1gg5mhigmhjg",
    "26shig1hhhq1qhlg4rhjgrhng1ihkipg1jhjirg1ihiisgthhgjhhgii4gg2gipghiigqj2hgjihlhiqjmg5phnglhii2i",
    "hhihhlg4mhqg1vhhgsikgsiqgqj8ggrj2lg1nhli3pgqihg1tiighiqjmgqj1mg1vi3hgli2vh1hiohjgqj1hgpisgji1u",
    "htiihqj2shuisg2kh1kiogqjjgjhqj2khigrhlg2rhigjh1ggjihg1likhhimhhiihjihhlgcgh4gi11mhigmhig2mhigm",
    "higohhghhhghhhghhhg1vhig3lhhgnhhghhjgjhhgnhjgkhigmhkgthlgjhhgnhjgnqhgjqhghih1hilogirqghrighois",
    "llhpvgipjghmvghpqghqllhgqlhghhtghh1ggth3jg2hi1hghhkghhigqhhghhjglhmghhhghhhghhhgkhhgrhigkhlglh",
    "kghh1hg2ph32tg3kh71mgelhmgkhjiihsg2mhhghhlghhig3ohnghhvghi1nhpgnhhgnhhgnhhgnhhgnhhgnhhgnhhgnhh",
    "g2gi2vghh1dgghqkghh2kgmihglklgih5sgiiikjg5rkhgkklg2rhhg5uh1hg2gh3gg1gkdgg2vkhg5ok6caog48th4jg2",
    "uhig10thjg1ghqjih1kg2vhkihgqihg1vhii5ghii1mgcmhigihhghhhgoh1lg1ghhijhhikhhi1nhlikghi1jg3khsgii",
    "3ih1iiqgqjmg1iimhjghhhgihhiqj1shoiig1nhtisg1thjgki2vhuiughhqjrghiqgqjmg2phuipgjhhiohiiigqj2hgj",
    "i3ighihgjiigiilgiihghi1ugrhliigjhiiqgmhigmhigmhpgnhhgnhhg3qhmg7jhoihgiiigqjmg2bakhsg1nhkg3hh23",
    "0kgnhsglhlghnhiqnhgtnhglnhghnhginhginhgqn6ih2hg16rh1ig4ghig3mh2ogshkg1gijghosg1gijgip1ogjphmhg",
    "hrhghmho1qglhhg8nhighlnghrkghmhghrhgqjhohmlg1qhkghphg1qhrg3okii1vhjgmhigmhigmhigjh1sgjlkgshhg1",
    "qhhg1jhhgihhgvhiguh2ig7rh4lg3lh8oghi8ig1thjg3hhvghi1vg2ghtg1uhlg2mhlilg1uhig2khkgohhglh2qg9uhi",
    "gqjmg2khkg2khkg2ohog3khsgrhhgvhhgnhhgihhgrhhgvhhgnhhgihjg3khsg13nhpg1mhqgoh1ogmhhg2qhhgph4lgmh",
    "ighhhg2shhgihjghhig1nhqg1nhpg1vh4hg1jhhgihqg1mhqg1qh4mg3ohmgih4gghhjihgiilgkikhhgjhhg1thigjikg",
    "hi2gg1thjg1th2jgohhg1shii1pg3mhqg1mhqg1jhtg1ih6ug4ph3ng3jhtg3jhtg2khkiogqjmgqj1shjglihg1nhfqg2",
    "qhhgiijgih1ggjh3ngki1thqghhog1mhri1vg1ihki2qg1lh1rg1nhpgji3lhvi1vgqjhiihiihhpgki2thriighjkghiq",
    "ghjig1phngqjmgji2khuihgqjkghhiihhog2jhhiighhpgji3ghuikhkgkihgiiqjhhhghh2jg1ihhg1phsimghiihhi3u",
    "gnhhghhhgkhhgvhhgqhng2vhsilgqjmgkihgohigihig1mhhgnhhgihhglhhgiihhniigiiigjiighhmghilglhiiignij",
    "glirgqhhghhighhhg2mhhghhpihghiighihgkihglihhhihhtgii1tg3lh1iikhlgqjkghijh1ug3gh1kiihhghhogqjam",
    "g2vhniigpi1ngkhii2ig3gh1hijghhrgqj2mg2rhtihhngqjmg1kj3pgvikgqjcmg2shvi6lg4ghqj1lgohighhigohhgi",
    "hhg1ohmihgiiigkihhhihhiisgqj4mgohig2nhniignihhhghhhi1rghhqi2ohnihhkioghioghhri2uh1gijghh1ig4ph",
    "cng2hhvgqjmgphhg2lhoihgoihhvgqj1og1uhig1mihgui4pgnhhgihhg2mhmijghihgiihgnihhhiogqjmgmhhgihhg2g",
    "hlihgiihglihhngqj13mg1jhkipgiihhhithhg2ihnijglitgqjhi5lghh4vg39qh6mg6vh1hgckha4sg6hhvg43gh1glh",
    "imhviqgf9rhlg24nh1abpg1uh1iiqj6cmg23phng1vhhgqjmg4vhhgqjmg1uhiglirg3ghnipgkhsgqjpg1lhlg1jh1bgg",
    "2thjgqjcmg4gh8gg4rhkghihh3ningkith4ggihhghhhirgii3ffugkkhgnkhgikhghk11vgjk3ighkugkka9og6rhlgth",
    "jgphngqhjgiihgkl104sgqj20mg2uiig1ni21uglijgmioloiigni1ugki9kgji1brg5lhhg4nhhgihighhigihigkhhgs",
    "hhghhhgnhhg4hhhgkhigohhgnhhg1shhgkhhglhhghhjgnhhg15khig1phhg1phhg1vhhg1phhg1vhhg1phhg1vhhg1phh",
    "g1vhhg1phhgohig3ij20gg3nikg3iioghiughi1mglihgvi45gg1vhmgmhdlgnihg1hiignihgiihglilg3uh2hghi7gg2",
    "thjgninhigqjkghh14hg1uhhi1hg2shkiqj1dmg1shkiqjdmg1uhiihhqj1elgnhhgkhhgihhgvhhgclhrgni2pg4khnih",
    "hkgqj4amgkhhg1rhhgihhghhighhhgqhhgkhhghhhghhmghhkghhhghhhghhhgjhhgihhghhighhhghhhghhhghhhghhhg",
    "ihhghhigkhhgnhhgkhhgkhhghhhgqhhg1hhlgjhhglhhg1hh27kg1qhmg1qhmg1qh5sg1q1i1frgli7fggqjc040nghl1u",
    "g6gi8ggfgi2fe1gg"]

/-- The aliases of every word break value. -/
def wordBreakAliases : String :=
  String.join [
  "CR DQ;Double_Quote EX;ExtendNumLet Extend FO;Format HL;Hebrew_Letter KA;Katakana LE;ALetter LF ",
  "MB;MidNumLet ML;MidLetter MN;MidNum NL;Newline NU;Numeric RI;Regional_Indicator ",
  "SQ;Single_Quote WSegSpace ZWJ"]

end ClassMetrics.Unicode
