import ClassMetrics.Unicode.Runs

/-!
The general category of every code point, Unicode 16.0, as packed runs of code points that share
one, each category named by its two letters. Surrogates are listed as `Cs` and unassigned code
points as `Cn`.
-/

namespace ClassMetrics.Unicode

/-- The general categories, run by run from code point 0. -/
def categoryTable : RunTable where
  names := "Cn Ll Lu Lo Mn Po Mc So Ps Pe Lm No Nd Sm Sk Sc Cf Pd Nl Pi Pf Lt Zs Pc Me Co Cc Zl Zp Cs"
  runs := String.join [
    "2g1qh1mjlhvjlhohphlhthlh1hilqsiljtil1qihohlhphuh1nhu1qhhohthpht2h1qh1mhlkvhnhlhuhnhjh1jhth1ghn",
    "huhnhtirhuhhilhuhrhjh1kjrhl1nihtni1ohhtohhihhhihhhihhhihhhihhhihhhihhhihhhihhhihhhihhhihhhihhh",
    "ihhhihhhihhhihhhihhhihhhihhhihhhihhhihhhihhhihhhihhhihhhiihhihhhihhhihhhihhhihhhihhhihhhiihhih",
    "hhihhhihhhihhhihhhihhhihhhihhhihhhihhhihhhihhhihhhihhhihhhihhhihhhihhhihhhihhhihhhihhhihhiihhh",
    "ihhhijhiihhhihhiihhjiihkihhiihhjijhiihhiihhhihhhihhiihhhiihhihhiihhjihhhihhiiihhjhijhkjhih1lhh",
    "hih1lhhhih1lhhhihhhihhhihhhihhhihhhihhhihhhiihhihhhihhhihhhihhhihhhihhhihhhihhhiihhih1lhhhihhj",
    "ihhhihhhihhhihhhihhhihhhihhhihhhihhhihhhihhhihhhihhhihhhihhhihhhihhhihhhihhhihhhihhhihhhihhhih",
    "hhihhhihhhihhhihhhihhhinhiihhiiihhihhkihhhihhhihhhihhhi4lhhj1rh1iqkusquulqnuhqhuhq1hu7gkhihhhi",
    "hhhqhuhihhighqjhhlhikgiuhihljihghihgiihh1hihgpi2jhhiihjijhhihhhihhhihhhihhhihhhihhhihhhihhhihh",
    "hihhhihhhilhhihhhthihhiiih3ji3ghhihhhihhhihhhihhhihhhihhhihhhihhhihhhihhhihhhihhhihhhihhhihhhi",
    "hhhihhhnlki1ohihhhihhhihhhihhhihhhihhhihhhihhhihhhihhhihhhihhhihhhihhhihhhihhhihhhihhhihhhihhh",
    "ihhhihhhihhhihhhihhhihhhihhiihhhihhhihhhihhhihhhihhhiihhihhhihhhihhhihhhihhhihhhihhhihhhihhhih",
    "hhihhhihhhihhhihhhihhhihhhihhhihhhihhhihhhihhhihhhihhhihhhihhhihhhihhhihhhihhhihhhihhhihhhihhh",
    "ihhhihhhihhhihhhihhhihhhihhhihhhihhhihhhihhhihhhihhhihhhihhhg2miighqml2phhlh1higinhvhg2tkh1hhk",
    "hlikhlikhlhkog1rjkgkjilrgm1gjtilhvilinrkhlh1gjl2gjhqqj1lkqsklijhk6jjhlhjnkh1ghnmkiqikhnkkijqsj",
    "jinhjulhgh1ghjhk1uj1rkig5pjrkhjugqs2hjpkiqhnjlhqighkiv1mjkkhqpkhqjkhqlkigvlhg1pjjkighlhgrjlg1o",
    "jhumjhgi1glgpk2pjhq1okh1g2gkhm3mjhkhmhkhjjmokkmhkimhjnkqjikilqshlhqvjhkimhgojigijig1mjhgnjhghj",
    "jgkjighkhjjmkkigimigimhkhjoghmkgijhgjjikigqsijivmrhnhvhjhlhkigikhmhgmjkgijig1mjhgnjhgijhgijhgi",
    "jighkhgjmikkgikigjkjghkngkjhghjngqsikjjhkhlqgikhmhgpjhgjjhg1mjhgnjhgijhgljighkhjjmlkhgikhmhgim",
    "hkighjvgijikigqshlhvnghjmkhghkimhgojigijig1mjhgnjhgijhgljighkhjhmhkhmkkigimigimhkngikhmkgijhgj",
    "jikigqshnhjmrqghkhjhgmjjgjjhgkjjgijhghjhgijjgijjgjjjgsjkgimhkimjgjmhgjmhkighjmghmugqsjrmnhvhnl",
    "ghkjmhkojhgjjhg1njhg1gjighkhjjkkmhgjkhgkkngikhgjjighjigijikigqsnghlnrhnhjhkimhlojhgjjhg1njhgqj",
    "hgljighkhjhmhklmhghkimhgimikngimmgijhgijikigqshgijhmsgikimpjhgjjhg2pjikhjjmkkhgjmhgjmhkhjhnkgj",
    "jhmnrjjikigqsprhnmjhghkimhg1ijjg1ojhgpjhghjignjjghkkgjmjkhghkhgommgqsigimhlsg3gjhkijnkkghvmjhq",
    "okhlqsil2lgijhghjhgljhg1ojhghjhgqjhkijpkhjigljhghqhgnkhgqsigkj2gghjjnvlhnhljnikmnqsqrhnhkhnhkh",
    "nhkhohphohpimojhg2kjkgukhmlkhlikljrkhg2kkhgonhkmnhginllknil2lg2rjimkkhmmkhmikimikhjqsmlmjimikk",
    "jjkhjjmijnmjjkktjhkimikmmhkhjhmqsjmhkin2mihghilghiig2rhhlhqjh14pjhgkjignjhghjhgkjig2pjhgkjig2h",
    "jhgkjignjhghjhgkjigvjhg3pjhgkjig4jjigjkpl1krjg1gjqnmg5miigmhigh1h26sjhnhl1hjh1m1qjhohpjg4rjjlj",
    "1iojng1ijjkhmpg1jjikhmilpg1ijiksgtjhgjjhgiksg3kjikhmnkomhkimrkjlhqjlhvhjhkigqsmgqrmgmlh1hkljkh",
    "1ghkqsmg2jjhq3ljngljik2ijhkhjlg4mjqg1vjhgjkkmikjmkgimhkmmjkkghnjgilqs1ujigljrg2sjkg1qjmgqshrjg",
    "2in1njikimhkigil3ljhmhkhmnkhghkhmhkimokmmqkighkqsmgqsmgnlhqmligukh1o1gk3hgkkhm2vjhkhmlkhmhklmh",
    "kimojhgilqsnlqnpkpnjlikhm1ujhmkkimikhmjkijqs2sjhkhmikjmhkhmjkimogkl2kjomokimikjgllqsjgjjqs1ujm",
    "qilphhihhlg2riigjiologjkhltkhmnkkjhkmjhkijhmikhjlg2sh3vqthhq2ih2lq4gkhihhhihhhihhhihhhihhhihhh",
    "ihhhihhhihhhihhhihhhihhhihhhihhhihhhihhhihhhihhhihhhihhhihhhihhhihhhihhhihhhihhhihhhihhhihhhih",
    "hhihhhihhhihhhihhhihhhihhhihhhihhhihhhihhhihhhihhhihhhihhhihhhihhhihhhihhhihhhihhhihhhihhhihhh",
    "ihhhihhhihhhihhhihhhihhhihhhihhhihhhihhhihhhihhhihhhihhhihhhihhhihhhihhhihhhihhhihhhiphhihhhih",
    "hhihhhihhhihhhihhhihhhihhhihhhihhhihhhihhhihhhihhhihhhihhhihhhihhhihhhihhhihhhihhhihhhihhhihhh",
    "ihhhihhhihhhihhhihhhihhhihhhihhhihhhihhhihhhihhhihhhihhhihhhihhhihhhihhhihhhihhhihhhihhhihhhip",
    "hoimhigmiigohoiohoimhigmiigohhghihghihghihghiohoiuhigoho1loho1loho1llhhgihkih1lhuhhjujhhgihkih",
    "1ljukhigihkihgjuohlijuigjhhgihkih1liuhgr1ml1gm1hilh1jh1khoi1jh1khoh1jolh1rh1sl1gh1mplh1jh1kkli",
    "1njlhthohprlhthlh1nqlh1ml1ghgq1ghrhqigmrjthohphqqrjthohphgtqjg2hvvgtkk1ohkj1oskvginhiknhiinhhj",
    "iihjihhhnhiinhtlimnhihnhihnhihnkihnhhkihhkjhhinihiilthikhhnhtinhhhn1gr2j1ihihhk1ihrinkgltlnitk",
    "nhtinhtinhtnnht1vnitinhthnht1vn10stonhohphohp1knitnnhohp5hnht1un1pt2onmt4on1mgrn1lg3sr4un1mrbn",
    "nhtpnht3mnot6vnhtfonhohphohphohphohphohphohphohp1ur2snlthohp1vthohphohphohphohphohp1gt10gn8jth",
    "ohphohphohphohphohphohphohphohphohphohphohp3vthohphohp2gthohp10it3gn1ltinmt2nnig2gnhg6pn3gi3gh",
    "hihhjiihhihhhihhhihhkihhhiihhimhiqjihhhihhhihhhihhhihhhihhhihhhihhhihhhihhhihhhihhhihhhihhhihh",
    "hihhhihhhihhhihhhihhhihhhihhhihhhihhhihhhihhhihhhihhhihhhihhhihhhihhhihhhihhhihhhihhhihhhihhhi",
    "hhhihhhihhhihhhihhhihhhihhhihhhihhhihhhihhhiihmnhihhhihhjkhihhlgklhril2mhhghhlghhig3ojnghqhlug",
    "hk1njpgnjhgnjhgnjhgnjhgnjhgnjhgnjhgnjhg2gkilh1jh1kh1jh1kjlh1jh1khlh1jh1kplh1hilh1hhlh1jh1kilh1",
    "jh1khohphohphohphohpllhqqli1hklh1hhlhotlinjlhohphohphohphohph1h2ig1qnhg5pnsgdmn1qg1gnh1mjlhnhq",
    "hjh1ihohphohphohphohphohpinhohphohphohphohph1hhoiphnp1ikkimh1hlqinj1ihqhjhlinhg5mjigikiuiqhjh1",
    "h5qjhljqhjlg2rjhg5ujhginkrqn2gj2mnpghn1gj1vnhgqr1unorhnvr2gnqr2nnvr14gn19cgj4gn521ljhq47njjg3n",
    "npg2ojmqil10sjhqjl1gjqsij1kghihhhihhhihhhihhhihhhihhhihhhihhhihhhihhhihhhihhhihhhihhhihhhihhhi",
    "hhhihhhihhhihhhihhhihhhihhhjhkj1ohlqkhlhqhihhhihhhihhhihhhihhhihhhihhhihhhihhhihhhihhhihhhihhh",
    "ihhiqik4mjq1iikmlog1nupqiuhihhhihhhihhhihhhihhhihhhijhhihhhihhhihhhihhhihhhihhhihhhihhhihhhihh",
    "hihhhihhhihhhihhhihhhihhhihhhihhhihhhihhhihhhihhhihhhihhhihhhihhhihhhihhhihhhihhhihhhqohhihhhi",
    "hhiihhhihhhihhhihhhihhhqiuhihhhihhhjhihhhijhhihhhihhhihhhihhhihhhihhhihhhihhhihhhihhlihhlihhhi",
    "hhhihhhihhhihhhihhhihhhihhkihhhihhiihhighihhhghhhghhhihhhihhhihhhi1lgjqhihhhjiqhhnjhkjjhkkjhk1",
    "njimikhmknhkjgmrinhvhnmg3kjklogim3ij1gmikogilqsmg1ikmjjlhjhlijhkqs1sjokil1njrkimrghl1tjjgjkhm2",
    "vjhkimkkimikjmtlhghqqskgilljhkhqpjqsljhg2pjmkimikimikpgjjhkojhkhmigqsigkl1gjhqmjjnhjhmhkhm3ijh",
    "khjjkijikljikhjhkhj1ogijhqilrjhmikimilhjiqhmhkqgmjigmjigmjpgnjhgnjhg2rhhukqphhqiukg5gh2jjimhki",
    "mhkimhlhmhkigqsmg2bakjsg1njkg3hjkg80g1t190g1p16ujig6qj2mgnhsglhlghjhkqjhttjhgljhghjhgijhgijhg6",
    "sj1hu1gg16rjhpho1gn4gjig3mjnghn2ggsjhvjn1gknlhohphlmg1gkhli1hi1nhohphohphohphohphohphohphohpho",
    "hpilhohpklj1njlhgklh1hhohphohphohpjlhth1hjthghlhvilkgljhg8njigh1ghgjlhvjlhohphlhthlh1hilqsiljt",
    "il1qihohlhphuh1nhu1qhhohthphthohphlhohpilqjhq2tjiq1vjjgmjigmjigmjigjjjgivhthuhnivhghnktinqgj1g",
    "inigsjhg1qjhg1jjhgijhgvjiguj2ig7rjlgjlkg2trjgpn3l1ikr1hnirjnhgtnjghn2vg2tnhk8ig1tjjg3hjvghk1rr",
    "kg2gjkrpg1kjh1iojh1ilg2mjlklg1ujhghl2kjkgojhll1i2qg2oi2oh4ujigqsmg2kikg2khkg2ojog3kjrghlrihgvi",
    "hgnihgiihgrhhgvhhgnhhgihjg3kjsg13njpg1mjqgoj1ogmqhg2qqhgpq4lgmjighjhg2sjhgijjghjig1njhghlor1nj",
    "innr1vjogpr3gg1jjhgijlglr1mjmrjghl1qjlghl4gg3ojkgirij1grig2urhjjkhgiklgkkkjhgjjhg1tjigjkkghkpr",
    "ngplng1tjirhl1tjjr2ggojhn1sjikkglrnlpg3mjjgnl1mjigor1jjlgor1ijngklsgnr5gg4pj3ng3jitg3jhngmr2kj",
    "kkogqsmgqskjhqhj1mijglkh1hhq1mhogitdgg1vrhg2qjhgikh1higij1ggjj3ngkk1tjqrhjog1mjrkkrll1mg1ijkkk",
    "l2mg1ljnr1kg1njpghmhkhm3ljvknlkg1krqshkijikhjpgjkhm2tjjmkkimikilh1gklhkqgh1gig1pjngqsmgjk2kjlk",
    "hmokhgqsklhjimhjog2jjhkilhjpgikhm3gjjmpkimkjklkkhlhmhkqshjhlhjjlhg1krrg1ijhg1pjjmjkimhkhmikmlh",
    "kijhk3ugnjhghjhgkjhgvjhgqjhlmg2vjhkjmoklgqsmgikimhgojigijig1mjhgnjhgijhgljhgikhjimhkkmigimigjm",
    "ighjmghmlgljimignkjglkrgqjhghjighjhg2mjhghjjmmkhghmighmhgkmhgimhkhmhkhjhkhjilhgilogik1tg3ljjmo",
    "kimjkhmhkkjllqsilhghlhkjj1ug3gjjmmkhmhkkmikhmikijhlhjogqsamg2vjjmkkigkmikhmik1nlkjik2ig3gjjmok",
    "imhkhmikjlhjrgqsmgtl1jg2rjhkhmhkimmkhmhkhjhlmgqsmg1ks1sg1rjighkhmhkimkkhmlkkgqsirjlhnnjbpg2sjj",
    "mpkhmikhl6kg2gi2ghqsprsgojighjigojhgijhg1ojmmhgimigikhmhkhjhmhjhmhkjlpgqs4mgojig2njjmkkigikkmh",
    "khjhlhjhm1rghjqk2ojmkhmhjkkolhkoghjmkimjk2ujtkhmikjlhjlltg4pjngqlbmg2hjhlugqsmgpjhg2ljhmnkhgmk",
    "hmhkhjllqgqs1jrjgil1ujig1mkhghmnkhmikhmik4pgnjhgijhg2mjmkjghkhgikhgnkhjhkogqsmgmjhgijhg2gjlmhg",
    "ikhgimhkhmhkhjngqs13mg1jjikimilngikhjhmtjhg2ijimlkjgimhkhmhktlqshk5lghjvg1lronkv1hntghl39qj6mg",
    "6v1ihgllrgckja4sg6hjiltg43gj1g1ghkmjvkqgf9rjlg24nj1abpg1ujskjmjkqs6cmg23pjng1vjhgqskgil4vjhgqs",
    "mg1ujiglkhlqg3gjnkllknkqhlhnqgqshgnrhg1ljlg1jj1bggjq2ojiqjlqscmg2gi2gh1nrkl6lg4rjkghkhj3nmngkk",
    "tq4ggiqhlhqhkrgimug17fojog4dmj2pgqj22engkqhgnqhgiqhg12jjvghj1tgjjighjugkjog18sj90kg6rjlgtjjgpj",
    "ngqjighnikhlk1gf5sgfgnqsmg1bkn4sg2ukig1nkpg7kn3sgfmnqg2nnig3snimjkjnmmo1gokinnk1unkk3tn1lg4inj",
    "khn7qg1krsg1krsg5nnpg1pr8ng1qi1qh1qinhhg1ih1qi1qhhihgiiighiigiiigkihgoikhhghhhgnhhgrh1qi1qhiih",
    "gkiigoihgnihg1qhiihgkihglihghijgnihg1qh1qi1qh1qi1qh1qi1qh1qi1qh1qi1qh1qi1shig1piht1phhtmh1piht",
    "1phhtmh1piht1phhtmh1piht1phhtmh1piht1phhtmhhihhig3is20gn3nkkn3ikonhkunhkinllvglkhgvk45ggqhhj1k",
    "hmgmhdlgnkhg1hkignkhgikhglklg3uq2hghk7gg2tjjgnknqigqskghjhn14gg1ujhk1hg2sjkkqslghv1dgg1rjhqkkq",
    "sdmg1ujikhjqskghl1eggnjhgkjhgijhgvjhgcljigprnk2pg2ii2ihnkhqkgqskgil31hg3rrhnjrhvkr4sg2trhnvrci",
    "gkjhg1rjhgijhghjighjhgqjhgkjhghjhghjmghjkghjhghjhghjhgjjhgijhghjighjhghjhghjhghjhghjhgijhghjig",
    "kjhgnjhgkjhgkjhghjhgqjhg1hjlgjjhgljhg1hj3kgit10ug2snkg6knsgvnigvnhgvnhg2lnqgtrahn3og1tntg2snkg",
    "pnnginugmn9qgfrnlu2donkg1hnjgtnjg7nnkg5vnmgsnkghnvgsnkg3onogqnmg2onog1unigsnkgin3ug15knsgunigt",
    "njgqnlg3onngvnigrnmgpnng9jnhg5snqs40mga6egj2gg103qjmgdujig168ijug1d3hjvg26uj9aig21uj5eig134rjl",
    "g106gjadc5hgh1g1ug6g1g8ggfgkfe1ggfffu1pigfffu1pig"]

end ClassMetrics.Unicode
