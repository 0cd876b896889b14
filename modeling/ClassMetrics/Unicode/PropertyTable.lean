import ClassMetrics.Prelude

/-!
The binary properties of code points, Unicode 16.0, each as a packed set table: run lengths,
alternately outside and inside the set from code point 0 on.
-/

namespace ClassMetrics.Unicode

/-- Each binary property by its full name, with its set table. -/
def propertyTables : List (String × String) := [
  ("ASCII_Hex_Digit",
    "3gqnm1qm"),
  ("Alphabetic",
    String.join [
    "4h1qm1q2vhqhkhl1nh1vh1cqksulnhhh5mh1t1ihiikhhmhhjhhh1kh5jh8roamh2mihm2p2nuhhhihihho1rkk1trl3oh",
    "nu6mhokokjqjih1g3gt6l1o2hpikhl1oi1j1j1pnrl1ohmoho2qqsjnm4sh1ghjkvt1jhoiii1mhnhhjkjoiiiihhohkih",
    "lsiqhkjhmkii1mhnhihihiklkiiikhnkhh1hmrjhphjh1mhnhihljphjhijhvk1lkkjhoiii1mhnhihljoiiiipikihlth",
    "1gihmjjhkjihhhijijjjskljjhjjhmh2othjh1nh1gjohjhjoihjihik1skhohjh1nhqhljohjhjoimihktjsthjh2pioh",
    "jhjhhlknl1mmhjh1ij1ohphhinomhhho1iit3qlnmh3jihhhlh1ohhh1jhjilhhmhuk2gh3voh2kk1jk1gh2k4j3nhhil1",
    "g4gqki2mhhlhi2rh14thkinhhhki2phki2hhkinhhhkivh3phki4j2l1g1g5mimj26si1hh1ql4rjrn1kr1ls1ksthjhis",
    "3ki1juhkh4j5pn2rl4mq1vhskp1n1uilr2sk1q3m1sk3vi1k3ih1nirj3h3khvho3j2qikq2shru3n1mjq2kirl2rij2pk",
    "hmhijhlcg1j2ir11mimi2mimiohhhhhhh1vi3lhnhhjjhnjkimktljhn7khth1gt6lhkhiqhhjlmhhhhhhkhrikllkh1h2",
    "p32t3k71melmkjis2mhhlhi3onh1g1npnhnhnhnhnhnhnhnh2g2vh1dlj1ppnlilk5mmjh5qhkl2rh5u1h2g3g1g20g19c",
    "g4g568t4j2ui10tj1gqi1k2vloj7h2npi6ni4jiihhho1l1kh2h1o3ks4khh2smjhhjq2hl2jt1tj3jhsvh1g1gqlh3npu",
    "1i1nj4lhhhh1oji1gikrmimimpnhnh2rhum7r1l2baks1nk3h210k16ui6q2mnsllshthlhhhihih6s2h16r1i4gi3m2os",
    "7klh8n2k1qm1qr5pjmimimij2jsh1qh1jhihviu2i7r4l3l10r1tj3h2v2gt1ul2rl1ui2kkohl2q9u1i2kk2kk2oo3ksr",
    "hvhnhihrhvhnhij3ks13np1mqo1omh2qhp4lmihh2shijhi1nq1np1v4h1jhiq1mq1q4m3omi4gkhilohjh1t2q1tj1t2j",
    "oh1s1r3mq1mq1jt1i6u4p3n3jt3jt2o2i1sjhl1nfq2qhiji1gj3nhj1tqho1m2q1i2u1l1r1np4m2rlq3ppht1p1n3j1h",
    "ko2jjhp4ghkpiqhhh2j1ih2iihmk3unhhhkhvhqn3p1nkhoiii1mhnhihljoiiiijhmhln1sqhhihh2mhqhhihhkhijhhh",
    "2s4ihjhk1kj1u4iiihhbo3min1pm2i3vhhjh3r3mih4n1riu1lnbp3p6n4g1voihiohih1uhiiiik5toi2uimhhhi1r3ji",
    "q1h4olh1i4pcn2h1vph2thnhh3h1ui1mhu4pnhih2sjhhihjhhii1omhih2lhihkhh14n1np1hh2pjj6vh4v39q6m6v1hc",
    "ka4s6hv43g1hm1pf9rl24n1abp2v6dh23pn1v1h4v1h1u1i3g1gk1v1ll1j1bg2tdj4g8g4rk3pn1h4gihhsiu17foo4dm",
    "2pq22enkhnhih12jvh1tjihuko18s90k6rltjpnqkh176h5lh4nhiihiiikhshhhnh4hhkiohnh1shkhlhhjnh15ki1ph1",
    "ph1vh1ph1vh1ph1vh1ph1vh1pho73k1vmmdlnh1hinhihll3u2hh7g2tqn1gh14h1u1i2s1ek1sek1uih1evnhkhihvhcl",
    "3r4kjhjh4bkkh1rhihhihhqhkhhhhmhkhhhhhhjhihhihhhhhhhhhhihhikhnhkhkhhhqh1hljhlh1h27k1qm1qm1qe7ma",
    "6eg2g103qmdui168iu1d3hv26u9ai21u5ei134rl106g"]),
  ("Bidi_Control",
    "61sh19fhi1ql3nk"),
  ("Bidi_Mirrored",
    String.join [
    "2oi1ihhh1shhh1thhh2thvhe7uk75ti99siqi3miuibhhcgkjmjhjijkhkhhhhkplhh1ilkpihhhoh2giklhpii1jlipli",
    "ik1oi1gok1kini43tu4qhikhihjlkljju19j1mimhuohnmjhklhiilkhhjiiqmiis1jhkihhhihhklimj1oirikkhiiik2",
    "rioh2olhhhjlljkhjlhh10gh20jkjihiuiiq2ro1arqioce3tmliaii1ihhh1shhh1thhhhihid77nh3ph3ph3ph3ph"]),
  ("Case_Ignorable",
    String.join [
    "2nhmhrh2jhhh4nhkhhhkhii1fncgkikhpihhfrncvhlh3h2thhhihihh2shrmqrhh2jhq1l1gh6lohqhk2hhhh1u1r5rr3",
    "qrkhih1o1o2rj2shnilp2p3q3nhhhkokhjnqithvh3qhkkoh1ki1qhii3phkikiijjh1uijhri3phklhikh1ki1mmhh3qh",
    "ihhkohniri1uh3thsh3ihjh3nhhjljhkniri1th3qhihmhli1ki1si3pikkoh1ki1th4ohnjhh5qhinrp6ihipphhn4pi1",
    "rhhhhh3nuhlhilrh2kph6mkhmhiii1pikj1gkthiimhvh5uh26gj3bij1ti1ui1ui4gihnohirjhlh2tl3jh4hi2ih7mjk",
    "iphmjdriih3qhhnhhhhiomqih2nho1v3hk3ghhlhhlh2opsi2gkiihj3ohhijhhj3qoii4gm5ijhthnkhmhji3i3vth2i6",
    "l1bthhjrjtjtjtisloiqhihil3hlhqhhth1gt3j2hb8ri7hj7thvh6g2g2vh1dlh2kkjllh5tm5tj6f1mh4eim10uh6ikh",
    "qhh1sk5giu2i4uh1nj6njjiohjhkh1pilh9ni1q1ith2mo1pr2uj3ghikii1hh1li4imiiiishoh2jhrh3jhhjiilihh1r",
    "huilihh6klpj7phihkh4f3gh9j1h23t1gjhs1g2ihihaphnhmhrh2jhhh2vh2ti4jh1lj20hheih9ll40lmh2qhp24mjhi",
    "lk2ojkhali23tk2mh1qlhh13ri4vk4mr3hk7rh3mv2phiiqj3hkiiihkhqh3ij2klho3uhsi3kpqkih5vjihhimhih9thj",
    "o1li3pijh2lnjl4mmthhhhhui5loijhh1nh5kmhhkihieukmihi1ri5loihhi6qhhhimhh6lhhhikhl10jphi10gihhkh9",
    "gkiikh2gq2omikohpmij2uthi19mnhmhh5i1minhihi7qmjhhihnhh4oijhhh15riri3kllhhh1nh14dl1hmv2ccosjj9c",
    "gl3rnpk1fsj2oi1eih3v1h4gihi400rkhnhic9uihk125s2ui1n22gjp1gin1uk9kj7br3nk3iohuh1mlhv55gnh1hinhi",
    "hll3u2hhagu17gh3tk1frlfui2egn6toaavlc0c0hh1u6g8gfg"]),
  ("Cased",
    String.join [
    "4h1qm1q2vhqhkhl1nh1vhcjhkkdgh2kni1ul6gh2qkiiikhhmhhjhhh1kh5jh8roamh2mp2pb1n2mhhlhi2rhk2ag5mim8",
    "8irl2rij4gcg4g11mimi2mimiohhhhhhh1vi3lhnhhjjhnjkimktljhn7khth1gt6lhkhiqhhjlmhhhhhhkhmkhikllkh1",
    "h2gji33h3k71melmkjis2mhhlh791i2u1i1u8k6mjkh3uiihhho1llhj33l2rhum5g4f4gnsl40p1qm1q4al5g6g2kk2k7",
    "krhvhnhihrhvhnhi1cjhijh2qhp4cl3jt3j5t1mq1mb1q4g556g4g658g5lh4nhiihiiikhshhhnh4hhkiohnh1shkhlhh",
    "jnh15ki1ph1ph1vh1ph1vh1ph1vh1ph1vh1pho73kqh1kmm10l3u89i4k7es1qm1qm1q"]),
  ("Changes_When_Casefolded",
    String.join [
    "4h1q5qhq1nho2ghhhhhhhhhhhhhhhhhhhhhhhhhhhhhhhhhhhhhhhhhhhhhhhhhhhhhhhihhhhhhhhhhhhhhhhihhhhhhh",
    "hhhhhhhhhhhhhhhhhhhhhhhhhhhhhhhhhhhhhhihhhhhhhihhhihjikhihjjihihhhhhihhihhihjhhhijhnihihihhhhh",
    "hhhhhhhhhhhihhhhhhhhhhhhhhhhhiihhhjhhhhhhhhhhhhhhhhhhhhhhhhhhhhhhhhhhhhhhhhhhhhhhhhhhhhhhhhhhn",
    "ihiihhkhhhhhhhhfmh2qhhhjhohmhhjhhhih1hhp1mhsjjihhhhhhhhhhhhhhhhhhhhhhhhhiiihhhii3j3ghhhhhhhhhh",
    "hhhhhhhhhhhhhhhhhhhhhhhphhhhhhhhhhhhhhhhhhhhhhhhhhhhhhhhhhhhhhhhhhhhhhhhhhhhhhihhhhhhhhhhhhihh",
    "hhhhhhhhhhhhhhhhhhhhhhhhhhhhhhhhhhhhhhhhhhhhhhhhhhhhhhhhhhhhhhhhhhhhhhhhhhhhhhhhhhhhhhhhhhhhhi",
    "2m3ghb1o2mhhlh32qm88iqm2rij14ghhhhhhhhhhhhhhhhhhhhhhhhhhhhhhhhhhhhhhhhhhhhhhhhhhhhhhhhhhhhhhhh",
    "hhhhhhhhhhhhhhhhhhhhhhhhhhhhhhhhhhhhhhhhhhhhhhhhhhhhhhhhhhhhhhhhhhhhhhhhhhhhhhhhhhhhhliihhhhhh",
    "hhhhhhhhhhhhhhhhhhhhhhhhhhhhhhhhhhhhhhhhhhhhhhhhhhhhhhhhhhhhhhhhhhhhhhhhhhhhhhhhhhhhhhhhhhhpoo",
    "mqoooomrhhhhhhhoo1g3gijimljimrkslljim12phjimh2t1g1jh33i1q73g3g3ghhjihhhhhhkhhihojhhhhhhhhhhhhh",
    "hhhhhhhhhhhhhhhhhhhhhhhhhhhhhhhhhhhhhhhhhhhhhhhhhhhhhhhhhhhhhhhhhhhhhhhhhhhhhhhhhhhhhohhhkh794",
    "thhhhhhhhhhhhhhhhhhhhhhhhhhhhhhhhhhhhhhhhhhhhh1jhhhhhhhhhhhhhhhhhhhhhhhhhhh8nhhhhhhhhhhhhhjhhh",
    "hhhhhhhhhhhhhhhhhhhhhhhhhhhhhhhhhhhhhhhhhhhhhhhhhhhhhhhhhhqhhhhihhhhhhhhkhhhihhhjhhhhhhhhhhhhh",
    "hhhhhhhlhlhhhhhhhhhhhhhhhkhhhijhlhhhhhhh1oh37q5g4f4gnsl40p1q4cl2o8o2k9srhvhnhi6eq3j9t1mb3q2g55",
    "8g2g7aag2i"]),
  ("Changes_When_Casemapped",
    String.join [
    "4h1qm1q3qhq1nh1vh4gh5kh1siuiihhk5th1im1rhihhhijihkhlihhiihnhihhijmlhqiamh2qkiijjhhmhhjhhh1kh2v",
    "j2hhlh8loamh2mq2nb1o2mhhlhi2rij2ag5mim88irl2rijbphjh1gh7h9sihh7mimi2mimiohhhhhhh1vi3lhnhhjjhnj",
    "kimktljhn12phjimh1rh1h2gji33h3k71m7hhihin6mnkjis2mhhlh791i2u1i1s8mui3upvjjilh1ph1uiikn1oi35sh1",
    "s5g4f4gnsl40p1qm1q4al5g6g2kk2k7krhvhnhihrhvhnhi6cj3jt3j5t1mq1mb1q4g556g4g7a8g4k"]),
  ("Changes_When_Lowercased",
    String.join [
    "4h1q6l1nhn2hhhhhhhhhhhhhhhhhhhhhhhhhhhhhhhhhhhhhhhhhhhhhhhhhhhhhhhhihhhhhhhhhhhhhhhihhhhhhhhhh",
    "hhhhhhhhhhhhhhhhhhhhhhhhhhhhhhhhhhhhihhhhjihhhihjikhihjjihihhhhhihhihhihjhhhijhnihihihhhhhhhhh",
    "hhhhhhhihhhhhhhhhhhhhhhhhiihhhjhhhhhhhhhhhhhhhhhhhhhhhhhhhhhhhhhhhhhhhhhhhhhhhhhhhhhhhhhhnihii",
    "hhkhhhhhhhh12hhhhjhohmhhjhhhih1hhp2jhohhhhhhhhhhhhhhhhhhhhhhhlhihhii3j3ghhhhhhhhhhhhhhhhhhhhhh",
    "hhhhhhhhhhhphhhhhhhhhhhhhhhhhhhhhhhhhhhhhhhhhhhhhhhhhhhhhhhhhhhhhhihhhhhhhhhhhhihhhhhhhhhhhhhh",
    "hhhhhhhhhhhhhhhhhhhhhhhhhhhhhhhhhhhhhhhhhhhhhhhhhhhhhhhhhhhhhhhhhhhhhhhhhhhhhhhhhi2mb4p2mhhlh2",
    "di5m89jhm2rij14ghhhhhhhhhhhhhhhhhhhhhhhhhhhhhhhhhhhhhhhhhhhhhhhhhhhhhhhhhhhhhhhhhhhhhhhhhhhhhh",
    "hhhhhhhhhhhhhhhhhhhhhhhhhhhhhhhhhhhhhhhhhhhhhhhhhhhhhhhhhhhhhhhhhhhhhhhphhhhhhhhhhhhhhhhhhhhhh",
    "hhhhhhhhhhhhhhhhhhhhhhhhhhhhhhhhhhhhhhhhhhhhhhhhhhhhhhhhhhhhhhhhhhhhhhhhhhhpoomqoooomrhhhhhhho",
    "o1ooooooolrlrkslrl12phjimh2t1g1jh33i1q73g3g3ghhjihhhhhhkhhihojhhhhhhhhhhhhhhhhhhhhhhhhhhhhhhhh",
    "hhhhhhhhhhhhhhhhhhhhhhhhhhhhhhhhhhhhhhhhhhhhhhhhhhhhhhhhhhhhhhhhhhohhhkh794thhhhhhhhhhhhhhhhhh",
    "hhhhhhhhhhhhhhhhhhhhhhhhhhh1jhhhhhhhhhhhhhhhhhhhhhhhhhhh8nhhhhhhhhhhhhhjhhhhhhhhhhhhhhhhhhhhhh",
    "hhhhhhhhhhhhhhhhhhhhhhhhhhhhhhhhhhhhhhhqhhhhihhhhhhhhkhhhihhhjhhhhhhhhhhhhhhhhhhhhlhlhhhhhhhhh",
    "hhhhhhkhhhijhlhhhhhhh1oh572r1q4cl2o8o2k9srhvhnhi6eq3j9t1mb3q2g558g2g7aag2i"]),
  ("Changes_When_Titlecased",
    String.join [
    "6h1q3qh2p1ohohhhhhhhhhhhhhhhhhhhhhhhhhhhhhhhhhhhhhhhhhhhhhhhhhhhhhhhhihhhhhhhhhhhhhhihhhhhhhhh",
    "hhhhhhhhhhhhhhhhhhhhhhhhhhhhhhhhhhhhhihhhhjihhhihjhlhihjjihihhhhhihkhihjhhhihjhhhkhhihihhhhhhh",
    "hhhhhhhhhhihhhhhhhhhhhhhhhhhjhhhhjhhhhhhhhhhhhhhhhhhhhhhhhhhhhhhhhhhhhhhhjhhhhhhhhhhhhhhhhhohi",
    "ihhkhhhhhhhhmhihhhijihkhlihhiihnhihhijmlhqiamh2rhhhjhjj1ih1r2jhijjhhhhhhhhhhhhhhhhhhhhhhhlhhih",
    "ih3k3ghhhhhhhhhhhhhhhhhhhhhhhhhhhhhhhhhhphhhhhhhhhhhhhhhhhhhhhhhhhhhhhhhhhhhhhhhhhhhhhhhhhhhhh",
    "ihhhhhhhhhhhhihhhhhhhhhhhhhhhhhhhhhhhhhhhhhhhhhhhhhhhhhhhhhhhhhhhhhhhhhhhhhhhhhhhhhhhhhhhhhhhh",
    "hhhhhhhhhhhhhhhh3h2ne7gm88iphheuhjh1gh7ihhhhhhhhhhhhhhhhhhhhhhhhhhhhhhhhhhhhhhhhhhhhhhhhhhhhhh",
    "hhhhhhhhhhhhhhhhhhhhhhhhhhhhhhhhhhhhhhhhhhhhhhhhhhhhhhhhhhhhhhhhhhhhhhhhhhhhhhhhhhhhhhhhhhhhhh",
    "nlhhhhhhhhhhhhhhhhhhhhhhhhhhhhhhhhhhhhhhhhhhhhhhhhhhhhhhhhhhhhhhhhhhhhhhhhhhhhhhhhhhhhhhhhhhhh",
    "hhpomqoooomqoooouioooooolhimhjjhiokiiooqjhi15mh2h1gkh34r1q74m3ghhjihhhhhhmhihqhhhhhhhhhhhhhhhh",
    "hhhhhhhhhhhhhhhhhhhhhhhhhhhhhhhhhhhhhhhhhhhhhhhhhhhhhhhhhhhhhhhhhhhhhhhhhhhhhhhhhhhohhhkhs2mhh",
    "lh791jhhhhhhhhhhhhhhhhhhhhhhhhhhhhhhhhhhhhhhhhhhhhh1jhhhhhhhhhhhhhhhhhhhhhhhhhhh8nhhhhhhhhhhhh",
    "hjhhhhhhhhhhhhhhhhhhhhhhhhhhhhhhhhhhhhhhhhhhhhhhhhhhhhhhhhhhhhhqhhhihhhhhhhhhkhkhhiihhhhhhhhhh",
    "hhhhhhhhhrhhhhhhhhhhhhhhhkhhhihjhlhhhhh1qh35sh1s5g4f4gnsl42p1q4ct2o8o2k9rrhvhnhi70j3j7t1mb3q2g",
    "558g2g7aai2i"]),
  ("Changes_When_Uppercased",
    String.join [
    "6h1q3qh2p1ohohhhhhhhhhhhhhhhhhhhhhhhhhhhhhhhhhhhhhhhhhhhhhhhhhhhhhhhhihhhhhhhhhhhhhhihhhhhhhhh",
    "hhhhhhhhhhhhhhhhhhhhhhhhhhhhhhhhhhhhhihhhhjihhhihjhlhihjjihihhhhhihkhihjhhhihjhhhlihihihhhhhhh",
    "hhhhhhhhihhhhhhhhhhhhhhhhhihihhjhhhhhhhhhhhhhhhhhhhhhhhhhhhhhhhhhhhhhhhjhhhhhhhhhhhhhhhhhohiih",
    "hkhhhhhhhhmhihhhijihkhlihhiihnhihhijmlhqiamh2rhhhjhjj1ih1r2jhijjhhhhhhhhhhhhhhhhhhhhhhhlhhihih",
    "3k3ghhhhhhhhhhhhhhhhhhhhhhhhhhhhhhhhhhphhhhhhhhhhhhhhhhhhhhhhhhhhhhhhhhhhhhhhhhhhhhhhhhhhhhhih",
    "hhhhhhhhhhhihhhhhhhhhhhhhhhhhhhhhhhhhhhhhhhhhhhhhhhhhhhhhhhhhhhhhhhhhhhhhhhhhhhhhhhhhhhhhhhhhh",
    "hhhhhhhhhhhhhh3h2nb4o2rij2fom88iphheuhjh1gh7ihhhhhhhhhhhhhhhhhhhhhhhhhhhhhhhhhhhhhhhhhhhhhhhhh",
    "hhhhhhhhhhhhhhhhhhhhhhhhhhhhhhhhhhhhhhhhhhhhhhhhhhhhhhhhhhhhhhhhhhhhhhhhhhhhhhhhhhhhhhhhhhhhhh",
    "hhhhhnlhhhhhhhhhhhhhhhhhhhhhhhhhhhhhhhhhhhhhhhhhhhhhhhhhhhhhhhhhhhhhhhhhhhhhhhhhhhhhhhhhhhhhhh",
    "hhhhhhhpomqoooomqooooui3lhikhhhjjhikhjkiiooqjhikh15hh2h1gkh34r1q74m3ghhjihhhhhhmhihqhhhhhhhhhh",
    "hhhhhhhhhhhhhhhhhhhhhhhhhhhhhhhhhhhhhhhhhhhhhhhhhhhhhhhhhhhhhhhhhhhhhhhhhhhhhhhhhhhhhhhhhohhhk",
    "hs2mhhlh791jhhhhhhhhhhhhhhhhhhhhhhhhhhhhhhhhhhhhhhhhhhhhh1jhhhhhhhhhhhhhhhhhhhhhhhhhhh8nhhhhhh",
    "hhhhhhhjhhhhhhhhhhhhhhhhhhhhhhhhhhhhhhhhhhhhhhhhhhhhhhhhhhhhhhhhhhhhhqhhhihhhhhhhhhkhkhhiihhhh",
    "hhhhhhhhhhhhhhhrhhhhhhhhhhhhhhhkhhhihjhlhhhhh1qh35sh1s5g4f4gnsl42p1q4ct2o8o2k9rrhvhnhi70j3j7t1",
    "mb3q2g558g2g7aai2i"]),
  ("Dash",
    "2th55sh3jhe4hh40lh80pm3th2nhvh18mhc0khih1vikh1sh1buh1jh6vhcd9gi2lhqhaphe6gh13uh"),
  ("Default_Ignorable_Code_Point",
    "ath2ahh2cshb4ii65ji5ll7frl1ql3h1g10fkhcc9r1gevhagh4vpbcank14cvoc2e8l100g"),
  ("Deprecated",
    "14ph52ph90jhhh82pi8clm2bpiddcdmh"),
  ("Diacritic",
    String.join [
    "5uhhh4nhmhkhii1fn9vholm1hikhpiftldhh3n1hh1rhhhihh8moki8mikijj4j1r5rr3qr2ii7uo2pq1g1s3th1ghjk1s",
    "h4qh1gh6uh1gh6uh1gh2vj3sh1ghnh7nh6uh1gh6uh1gh6ti1gh7sh6vhsmhh6rhtl4ri1rhhhhhki4ijhi3uh7ghhi2oi",
    "kl1pnhhqi2chj3bki1uh9krph15rj12kh1koih3gvir6ohvh2mp3mi3qhri4ii4gm5i1pkhmhij3i3v5ps2lr1bthhjrjt",
    "jtjticfgj13th1fqm6pk5vh757ihsihh1si5iiu2i6mj6tish2lh9nh1r1i3pk2kh5vhsh2kh9lj4hk3jh6klpj8gi4f3g",
    "h30h1g10uhhh2vh2ti4jh2fsh49vmh2qhp27tjkhali23rm2mh1ql18vj4mr3hkcgh2ph4oi7oi3uh4shpj6oibii5gi1g",
    "h1onjl5pjhiti5vhjh7rifri7uh7mi7jh10ti10iikh9sh5jh1ih5hh1alh10ihhi5hh1api1nh14esv2cdph9cgl3rn23",
    "ki22i1h5gi3ffukhnhi1f0h2ui1n22gjjmooin1uke8i3ucin17nh3tk2fui2egn6tjhj"]),
  ("Emoji",
    String.join [
    "2jhmhlq6vhkh1f8thshdoh1mh5qmvi16vishamh1prkjcnheniqhph3qkhlphihiiihkhihhiihjhjiojlhhhlsriihhih",
    "h1ihii1imhhhijilhiikiriliihlihhhi1kilmhkihkhihimhhihhhhhmhjhmhqivhihkhhhkjhhri3gjphuhuh17ki1cv",
    "j1ji3jhkh4dqhsh25phhh1bd6qhcqhagisiuhiq4r1qhi1nh1khip1liau2ii7giihji5jijh10nh3vrmh1oniioshikih",
    "kitiihoiphljsjojihhhkhmhjhm5m3g4mloijkqjhhijhiqejskh11r2vhqhbp7gtjql3onvirmp"]),
  ("Emoji_Component",
    "2jhmhlq1fdjhdlhdd2rhf3dm1q1frl5bgkc066s6g"),
  ("Emoji_Modifier",
    "1f3frl"),
  ("Emoji_Modifier_Base",
    String.join [
    "261thdrh1gk1cc7nh3sjihij7liir1l1jjhkjhjnhhh1ohcpikh1lhkiaujjl5jh1gjphrh23vhihoomhpqij3oh3tihih",
    "h1hjhtelj2qp"]),
  ("Emoji_Presentation",
    String.join [
    "231qictkjhih20pi1li3is2rh1jhthoi1hiliohlh1lhnihhkhihnhki1sh2jhhhkjhh3tj1ohuh35ri3jhkh1c4auhcqh",
    "buhiq4r1qhh1oh1khilhj1liau2hsph4mh1ms2rkls1hjhj4nhhhbri3vtkh1o1ih1qith5m5l3g4mmhjjijkkrinpejsk",
    "h11r2vhqhbp7gtjql3onvirmp"]),
  ("Extended_Pictographic",
    String.join [
    "aphkh1f8thshdoh1mh5qmvi16vish5vh4mh1prkjcnheniqhph3qkhmhsh7iq7mirhhhhmhjhmhqivhihkhhhkjhhrl2tj",
    "phuhuh17ki1cvj1ji3jhkh4dqhsh25phhh1bd6m10gtj1vh3smsiuhiq1i3p1rvqh1khiphkp1bil13uo10q3g8g7ks5l2",
    "rsk3ooqm2oo1u5is2vhqh1bp10g3fu"]),
  ("Extender",
    String.join [
    "bnh21oi36uh1bph27mh8ph5ph2fgh7vh94jh3oh26jh18uh4kh138ph2rl6ni5tj6f1mh5fmh3cih1mh8ph6sh1li547rh",
    "81gi5crh1rhkh4cnh12lh7ki1fij4cvh50api49sihh715oi4bhh35kj"]),
  ("Grapheme_Base",
    String.join [
    "2g5v2hth25i7goimknhhh1khegnamh2mi3iij2uhhhihihp1rkm1hqrhh2u1l1gh6lohmiihk2gihh1u1t5prhu2rpnj1o",
    "khphjhnvh1plhhrl1v1h2q3p3nhhhkokhjnqi1thihoiii1mhnhhjkjhhimiiihhtihjk1olhhmkii1mhnhihihikj1okh",
    "hnqijhhshhphjh1mhnhihljkohhijhviksnhoihoiii1mhnhihljhihmiiivihjk1irhhmjjhkjihhhijijjjslhhijjhj",
    "jh1l1lmjhohjh1nh1gjhjk1jjihiikqnqhrhjh1nhqhljiihhi1oihikqhjurhjh2pihhiljhjhikjhqk1qiih1ij1ohph",
    "hinpimnnqijs3ghiroot2lihhhlh1ohhhqhiphilhhpqik2g1oi1rhhhhhuh2k1ihlhil3hohmht2l2tkhmhiii1pikj1g",
    "kthiimhvh2ohhlhi17phkinhhhki2phki2hhkinhhhkivh3phki4jl1tj1qm5mimi29tj5pn1it1jjip1iuthjv3kihnoh",
    "irpjqmqmrlqm5pnli2ihhl4mq1vkkijkihmnhj2qilr2sk1qmrj3piij3ohhphhiomtqmqmu5m3gqkjoh1tpsi2gkim3oh",
    "hijhht3goilvj3ul2rirrhthnkhmhjihlcg4g11mimi2mimiohhhhhhh1vi3lhvhuimh1jijhphrl1on3h1gii1rhtj2h3",
    "v8sk29q1mr1l71ki2gh15ojil2thhlhi3oniv1npnhnhnhnhnhnhnhn2h5u2i1qh5psdm1q3qm1gh5mk6ll2rh5uh5mp3g",
    "h726tj3np15s1k2vkhq2gi5gimocuiihhho1l1ghjhkh1pilkqm3oo4kqs1oth2mo1prhs1um3ghikiiihthrknh1ph2pm",
    "iiirjhohhiqi2gh3jhhjiilihhh1o1hiormimimpnhnh3sk7lhihkjqm2baks1nk3h210k16ui6q2mnsllhh1ohlhhhihi",
    "h7t1g1bti3mnh2g1g1gq1m2jh1jhkklh8nk9ti1vjmimimijjnhntiish1qh1jhihviu2i7rljk2tj5ohtjh2v2t8j1tj3",
    "h1g1rk2kp1ul2mq1uh2lku2q9uiqm2kk2kk2oo3krshvhnhihrhvhnhij3ks13np1mqo1omh2qhp4lmihh2shijhi1nh4o",
    "op3g1jhil2hj1rlh4g3ok1ki2vvkhjh1tqpnpn4g2g2lmsp3mj1ti1rl1qnksn5g4p3n3jt3jn2qsqm2mo1ooidg1vh2qj",
    "hii1gj3r2oo1mrp1m1ikk2m1s1k1nphh3mvnk1uhiihs3hkiiihku1pnqp2klhp1io2jhjr3kphhokih1gh1kr1ih1sjik",
    "mhi3vnhhhkhvhrm2vhjtqoihoiii1mhnhihljhhhhkiiiijhsn1sqhhihh2mhhhivhhijhhjhi2n3ooijhh1lhhhj1u3gh",
    "imhhihhihikoqam2vhimkihi1r2k3joihhikrqmt1j2rhhhioimqm1k1s1rjhhikhp1nbp2vphih6k5jsoihiohih1ohlh",
    "imkhjpq4moi2qokhk1rhq2omikophmij2uthipt4pnqbm2iuqmph2muhhmq1tj2g1phnhih4rnhih2m1lhpqmmhih2lkih",
    "hhhnq13m1jikpvh2koij1n5mhv3it39r6m6vhlrcka4s6jt43g1hm1pf9rl24n1abp1usjjq6cm23pn1vhqk5hhqm1unhq",
    "3gnvqqhnh1ll1j1bg3qcm5r6l4rl3ort4gk1s17foo4dm2pq22enkhnhih12jvh1tjihuko18s90k6rltjpnqihihf6gfq",
    "m1bk9s7k3sfmq2ni3slj1min1uk3t1l4ijh7q1ks1ks5np1p8n5lh4nhiihiiikhshhhnh4hhkiohnh1shkhlhhjnh15ki",
    "12ki23i3nk3iohuhn47k1vmm10l3u9i2tqniqki14g1u1i2skqlh1dg1skqdm1uirkh1egnhkhihvhclip3g4knhkqki31",
    "h4k4s3tcikh1rhihhihhqhkhhhhmhkhhhhhhjhihhihhhhhhhhhhihhikhnhkhkhhhqh1hljhlh1h3ki10u2sk6ksvivhv",
    "h2lqau3o1tt2skpnium9q3dok1hjtj7nk5vmskhvsk3ooqm2oo1uiski3u15ksuitjql3onvirmpn9jh6m40ma6eg2g103",
    "qmdui168iu1d3hv26u9ai21u5ei134rl106g"]),
  ("Grapheme_Extend",
    String.join [
    "30g7g11jn10n2thhhihihh4or3g1l1gh6lnimiihk2jh1u1r5rr3qpph1okhphjhl2rj3rp2q1oh2g3nhhhkokhjnqi1th",
    "3qhhhikohphqi1qhii3phkikiijjh1uijhri3phklhikh1ki1mmhh3qhhihkohnjqi1uh3rhhhshph2ohjh3nhhjljhkni",
    "ri1th3qhiihhjjhkniri1si3pihhikohphqi1th4ohkhijhhoh5hhinso6ihiprn4pi1rhhhhh3nuhlhilrh2kph6mkhmh",
    "iii1pikj1gkthiimhvh2bvj3bik1sj1ti1ui4gihnohirph2tjhh7li2ih7mjkiphmjdriih3qhhnhhhhiomqih3g1v3hk",
    "3gqkj2mpsi2gkim3ohhijhhl3ooii9ojhthnkhmhjicm4g20shcj2hbfuj8th6g2g22qm6pi75dkkhq2gi5gi11ghjhkh1",
    "pilh9ni1q1ith2mo1prhh2sj3ghikiiih2kh4jmiiiishoh2vh3jhhjiilihh2qioheuhihkh4f3gh2eh1g1g1g16ui25t",
    "heih9ll68mjhilk2ojkhali23tk4hl13ti4vk4mr3hk7rh3mv2phiiqj3hkiinh3tj2klho3uhsi3kphhokih5vjikmhih",
    "9thjo1li3pihhhhshphunjl4jhimhhihhjkjhhui5loijhh1nh5hhimhhihhihierhikmihi1ri5loihhi6qhhhio6lhhh",
    "ikhl10jphiflhqkkh9gkiikh2gq2omikohpmij2uthi19mnhmhh5i1minhihi7qmjhhihnhh4oijhhh15riri3kllj1nh1",
    "4elhmv2ccosjj9cgl3rn41oh3vk5hhri4cari126h2ui1n21uljmooin1uk9kj7br3nk3iohuh1mlhv55gnh1hinhihl6k",
    "hagn17nh3tk1fskfui2egn6tnc16dl6g8gfg"]),
  ("Grapheme_Link",
    String.join [
    "94th7vh7vh7vh7vh7vh7vh7vh6ti1gh7sh6vh7vhcphbki6dpi1uh9th28thejh6li4mi118rh7a8mh2lh9nh8uh6sh13l",
    "hfmh5e5hh60mh2phuh3ph7pi8rh7khbkh6ih8gj7hh7vhfsh7vh7mh7kh10th10jiahh5jh1ih5hh1alh10ki5hh1api41",
    "esh"]),
  ("Hex_Digit",
    "3gqnm1qmfeapqnm1qm"),
  ("Hyphen",
    "2th7vh4dsh127rh80pie0lh2ejhcd6nhaph5nh"),
  ("IDS_Binary_Operator",
    "2ffgiiq1fhh"),
  ("IDS_Trinary_Operator",
    "2ffii"),
  ("IDS_Unary_Operator",
    "2ffui"),
  ("ID_Compat_Math_Continue",
    "biilh1fbmhjrhv17jhkh1mh1b4aih1ph1vh1ph1vh1ph1vh1ph1vh1ph"),
  ("ID_Compat_Math_Start",
    "220ihkh1mh1b4aih1ph1vh1ph1vh1ph1vh1ph1vh1ph"),
  ("ID_Continue",
    String.join [
    "3gqn1qkhh1q2vhqhhhihl1nh1vh1cqksulnhhh1h7lhiikhhmlhhh1kh5jh8rhliamh2mihm2po2thhhihihho1rkk1trl",
    "4qk6mhoiqh1jih1g3ri6lu3mkhihi2u1i1skrl1ohmo4rh8hiqh1jhoiii1mhnhhjkipiiikohkihlisqhhhijhmkii1mh",
    "nhihihiihhlkiijjhnkhhn1grjhphjh1mhnhihliqhjhjihvkiqpnhjhoiii1mhnhihlipiiijnjkihliqhh1gihmjjhkj",
    "ihhhijijjjskljjhkihmhuq1gthjh1nh1giphjhknihjihikiq1gkhohjh1nhqhliphjhknimihkiqhjsthjh3jhjhllkn",
    "liqqmhjh1ij1ohphhinjhkmhhhomqiit3qlvhq2nihhhlh1ohhh1nilhhhnhqik2gh1nimqrhhhhhkqh2kk1kh1ih2kph3",
    "p4qm4ui2mhhlhi2rh14thkinhhhki2phki2hhkinhhhkivh3phki4jijppu1g1g5mimj26si1hh1ql4rjrn1mp1mr1ksth",
    "jhis5kjhkiiq2hjhrm5pn2rl4mq1vhsksq2oilr2sk1qmr2l1sk3vh1tirmqthouh1g3h4tjq1hps7ks3ooqj3hirl2rij",
    "1gjh2nl21mimi2mimiohhhhhhh1vi3lhnhhjjhnjkimktljhnvi3hi1jh1shth1gt3jtkhjs1hhkhiqhhimmhhhhhh1gik",
    "llkh1h2pa7nelmps2mhhlhi3onhv1opnhnhnhnhnhnhnhnh2g20lj1pvhlilk5minh5vl2rh5u1h2g3g1g20g19cg4g568",
    "t4j2ui10tj1s1k3gkqh7j2lpi6ni4jiihhho1l3mkh1j3ks4mqqm1ojhh3hi2ks1tj4hurm1vh3npuiqm1nj4p1oji1gil",
    "qmimimpnhnh2rhum7rhiiqm2baks1nk3h210k16ui6q2mnsllshthlhhhihih6s2h16r1i4gi3m2osk1g1g1gji1oj2glh",
    "8n1jqn1qkhh1qq5qjmimimij2jsh1qh1jhihviu2i7r4l3l8oh8i1tj3hvh1v2gt1ul2rl1ui2kkohl2q9uiqm2kk2kk2o",
    "o3ksrhvhnhihrhvhnhij3ks13np1mqo1omh2qhp4lmihh2shijhi1nq1np1v4h1jhiq1mq1q4m3omi4gkhilohjh1tijkh",
    "2g1tj1t2joh1u1p3mq1mq1jt1i6u4p3n3jt3jt2ooqm2mjlh1nfq2qhiji1gj3n2hqho2h1v1m2q1l1r1np4n1v1gp3snh",
    "t1pnqm3lhqkko2kihp4lkkhthh2j1ih2lmk3unhhhkhvhqn3rlqmkhoiii1mhnhihlhqiiijihmhlninjlrqhhihh2mhqh",
    "hihhkhoti1t4rlqkk1u4mhhoqam3mip1nm2i4hjhrq2m3pnqm1k1s1rivkqmnbp3r6l4q1loihiohih1uhiipsq4moi2ui",
    "ohi1r3voho4qjh1i4pcn2hvqmph2thpvq1o1ui1mhu4pnhih2sjhhihpoqmmhih2lhihmnq13m1np1hh2pjltr5lh4v39q",
    "6m6v1hcka4s6hv43g1g1mqf9rl24n1abp3q6cm23pn1vhqm4vhqm1uilr3npksqp1ll1j1bg2tjqcm4g8g4rk3pn1h4gih",
    "iriu17foo4dm2pq22enkhnhih12jvh1tjihuko18s90k6rltjpnqji105hq20m2ui1n21uljmooin1uk9kj1br5lh4nhii",
    "hiiikhshhhnh4hhkiohnh1shkhlhhjnh15ki1ph1ph1vh1ph1vh1ph1vh1ph1vh1phoi3i20g3nk3iohuh1mlhv45g1vmm",
    "dlnh1hinhihll3u2hh7g2tjuiqkh14h1v1h3q1dm2qdm2r1elnhkhihvhclrn2p4skq4amkh1rhihhihhqhkhhhhmhkhhh",
    "hhhjhihhihhhhhhhhhhihhikhnhkhkhhhqh1hljhlh1hd3kq40ma6eg2g103qmdui168iu1d3hv26u9ai21u5ei134rl10",
    "6gadd5gfg"]),
  ("ID_Start",
    String.join [
    "4h1qm1q2vhqhkhl1nh1vh1cqksulnhhh8hlhiikhhmhhjhhh1kh5jh8roamh2mihm2p4n1rkk2t2r2jih6jhhviniqjih1",
    "ghh1u1t5prh1o2hpikhl1mkhphjh1n1pnrl1ohm1h2q3q3mjh1ihnqv1gkoiii1mhnhhjkjh1ghtihjuiqhomkii1mhnhi",
    "hihi1vkhh1jj1gphjh1mhnhihljh1ihvi1nhroiii1mhnhihljh1uihjvh1hhhmjjhkjihhhijijjjs1mh3kohjh1nh1gj",
    "h1qjihii1uhkohjh1nhqhljh1vihivi1hphjh2pih1ghljoj1oml1ij1ohphhin3q3ghisn3qihhhlh1ohhhqhiphilhh1",
    "lk2gh3voh2k1rl7j2r1kh1gmkkjhjinjktsh1h2mhhlhi2rh14thkinhhhki2phki2hhkinhhhkivh3phki4j2l1g1g5mi",
    "mj26si1hh1ql4rjrn1it1ju1iuthjv3k2jhkh4j5pn2phhl4mq1v3h1uilr2sk1q3m1np3l5ih5t2v1ho3m1utiq2s1q2k",
    "2pjq2kirl2rij2pkhmhijhlcg4g11mimi2mimiohhhhhhh1vi3lhnhhjjhnjkimktljhn7khth1gt6lhkhiqhhimmhhhhh",
    "h1gikllkh1h2pa7nelmkjis2mhhlhi3onh1g1npnhnhnhnhnhnhnhn22mj1ppnlilk5mklh5qhkl2rh5u1h2g3g1g20g19",
    "cg4g568t4j2ui10tj1gqi1k2v1g1vi5g2npi6ni4jiihhho1l1ghjhkh1n1t3ku3i3umjhhir1sq1n1p1tn2v1sh1glhqq",
    "lh2p1njho1k1njhj3ihhjiilihhh1ojirnjsmimimpnhnh2rhum7j1t2baks1nk3h210k16ui6q2mnsllhhqhthlhhhihi",
    "h6s2h16r1i4gi3m2os7klh8n2k1qm1qr5pjmimimij2jsh1qh1jhihviu2i7r4l3l10r1tj3h2v2gt1ul2mq1ui2kkohl2",
    "q9u1i2kk2kk2oo3ksrhvhnhihrhvhnhij3ks13np1mqo1omh2qhp4lmihh2shijhi1nq1np1v4h1jhiq1mq1q4m3omi4gh",
    "vkhjh1t2q1tj1t2joh1s1r3mq1mq1jt1i6u4p3n3jt3jt2k2m1sp1nfq2qmi1gj3r1tqho1m2q1i2u1l1r1ns3l3piiht2",
    "t2g1p1q2k1thiho2jjhs3guk1lhhh2j1ih1p1ji3vnhhhkhvhqn2v2moiii1mhnhihljh1ihsl1uqhhihh2mhh1phhh2s3",
    "l1ik1kj1u3g1kihhbo2v2pk2k3g1kh3r2rth4n1r2lnbp2s7k4g1voihiohih1ovhhh5uoi2n1ghhh1shq2onh1lhr2u1j",
    "h1i4pcn2h1vph2l1hh3h1u7gnhih2m1lh1pmhih2guh14n1jvhhth2i7sh4v39q6m6v1hcka4s6hv43g1hm1pf9rl24n1a",
    "bp1u6ei23pn1v1h4v1h1u1i3g1gk1v1ll1j1bg2tdj4g8g4rlh4it4gihh1s17foo4dm2pq22enkhnhih12jvh1tjihuko",
    "18s90k6rltjpnq176m5lh4nhiihiiikhshhhnh4hhkiohnh1shkhlhhjnh15ki1ph1ph1vh1ph1vh1ph1vh1ph1vh1pho7",
    "3k1vmm10l3u9i2tqn1gh14h1u1i2s1ek1sek1uih1evnhkhihvhcl3r4knh4bkkh1rhihhihhqhkhhhhmhkhhhhhhjhihh",
    "ihhhhhhhhhhihhikhnhkhkhhhqh1hljhlh1h114ka6eg2g103qmdui168iu1d3hv26u9ai21u5ei134rl106g"]),
  ("Ideographic",
    String.join [
    "300mi1ppuj3cl19cg4g520g590g16ui6q750qh1r17foo4dm2pq246n18s4d0ka6eg2g103qmdui168iu1d3hv26u9ai21",
    "u5ei134rl106g"]),
  ("Join_Control",
    "200si"),
  ("Logical_Order_Exception",
    "e4gl7rlafgjih90fqiihhi"),
  ("Lowercase",
    String.join [
    "6h1q2vhqhkh2k1ohohhhhhhhhhhhhhhhhhhhhhhhhhhhhhhhhhhhhhhhhhhhhhhhhhhhhhhhihhhhhhhhhhhhhhhihhhhh",
    "hhhhhhhhhhhhhhhhhhhhhhhhhhhhhhhhhhhhhhhhhihhhhjihhhihjikhihjjihihhhhhihhihhihjhhhiiijmhihihhhh",
    "hhhhhhhhhhhhihhhhhhhhhhhhhhhhhiihhhjhhhhhhhhhhhhhhhhhhhhhhhhhhhhhhhhhhhhhhhhhhhhhhhhhhhhhhhhhh",
    "nihiihhkhhhhhhhh4lh2kni1ul6gh2rhhhjhik1ih1r2jhijjhhhhhhhhhhhhhhhhhhhhhhhlhhihii3j3ghhhhhhhhhhh",
    "hhhhhhhhhhhhhhhhhhhhhhhphhhhhhhhhhhhhhhhhhhhhhhhhhhhhhhhhhhhhhhhhhhhhhhhhhhhhihhhhhhhhhhhhihhh",
    "hhhhhhhhhhhhhhhhhhhhhhhhhhhhhhhhhhhhhhhhhhhhhhhhhhhhhhhhhhhhhhhhhhhhhhhhhhhhhhhhhhhhhhhhhhhhh3",
    "g2pb4n2rhk2fom88iphh7lcg4hhhhhhhhhhhhhhhhhhhhhhhhhhhhhhhhhhhhhhhhhhhhhhhhhhhhhhhhhhhhhhhhhhhhh",
    "hhhhhhhhhhhhhhhhhhhhhhhhhhhhhhhhhhhhhhhhhhhhhhhhhhhhhhhhhhhhhhhhhhhhhhhhhhhhhhhhphhhhhhhhhhhhh",
    "hhhhhhhhhhhhhhhhhhhhhhhhhhhhhhhhhhhhhhhhhhhhhhhhhhhhhhhhhhhhhhhhhhhhhhhhhhhhhhhhhhhhpomqoooomq",
    "oooouioooooolhimhjjhiokiiooqjhi7phth1gt6thjijh1rhkhkhiiokkh2h1gkh34r1q74m3ghhjihhhhhhkhhihojhh",
    "hhhhhhhhhhhhhhhhhhhhhhhhhhhhhhhhhhhhhhhhhhhhhhhhhhhhhhhhhhhhhhhhhhhhhhhhhhhhhhhhhhhhhhhhhhhhhh",
    "hhinhhhkhs2mhhlh791jhhhhhhhhhhhhhhhhhhhhhhhhhhhhhhhhhhhhhhhhhhhhh1jhhhhhhhhhhhhhhhhhhhhhhhhhhj",
    "8lhhhhhhhhhhhhjhhhhhhhhhhhhhhhhhhhhhhhhhhhhhhhhhhhhhhhhhhhhhhhhhhhhhhhhhhhhhqhhhhihhhhhhhhhkhh",
    "hihhjhhhhhhhhhhhhhhhhhhhhlhlhhhhhhhhhhhhhhhkhhhihjhhhhhhhhhhh1mjhhhj33l2rhum5g4f4gnsl42p1q4ct2",
    "o8o2k9rrhvhnhi1cjhijh2qhp50l3j7t1mb3q2g558g2g659q1q1qnh1i1q1q1qkhhhnhr1q1q1q1q1q1q1q1q1q1q1q1q",
    "1q1q1q1q1q1s1s1phm1q1phm1q1phm1q1phm1q1phmhh73kqh1kmm10l3u8bk2i"]),
  ("Math",
    String.join [
    "2rh1gj1vh1thhh2thkh2lh1vh2dojih1qiij20vj1a0th1rjrhjhthuk1llrl4htkhjikl1ihkhiqhhimmhjiiihjhmjuh",
    "h4k1ohmhikik2ghhmiu10sok1ki5qh1u1rhh1ohrn1btisqkmkiiijluhhhimroli3phhh1tkpj15g4g10g20g3g1limcf",
    "dsh33nmhhaih1gj1thhh1thhh8jhmkdahic67g5lh4nhiihiiikhshhhnh4hhkiohnh1shkhlhhjnh15ki12ki3i160gkh",
    "1rhihhihhqhkhhhhmhkhhhhhhjhihhihhhhhhhhhhihhikhnhkhkhhhqh1hljhlh1h3ki"]),
  ("Modifier_Combining_Mark",
    "65kiih8jhmhji1ehihjjh1vh"),
  ("Noncharacter_Code_Point",
    "fddg2g20uifffuifffuifffuifffuifffuifffuifffuifffuifffuifffuifffuifffuifffuifffuifffuifffui"),
  ("Other_Alphabetic",
    String.join [
    "34lh1tt24guhhhihihh4or3gthn1gh6lnkkiikh2jh1u1g6mr6lijphjhk6qh3ssjnm1k3miivhiljqi1tj3qniiiiqhqi",
    "1tj3qlkiiikh1uijhrj3qohjhi1li1mjkj3qniiiipiqi1uh3rljjhjqh2ol3pnhjhjoiri1tj3qnhjhjoirivhsk3qnhj",
    "hjqhqi1tj4rmhhho1ii3thin1ih6jhimhi1ghaj1jprh2k6ushhik1nkkjhjinjktshhqk67ki1ui1ui1ui4i1jbsi2ih7",
    "mskpdul3pqi1k4qirj3hl3gv3sj1upii3pr3i1j19s2i6ch3k8fm2g787ko2ii16ihoh1nl5oi3i1ghh3ph2ml1ss2tk3g",
    "s2lh4jushoi2tj3ihhjiilh2sllheto4f3jh85nl68mjhilk31kk4hh14hi4vh10jj3lu2tirj2tpph3tj2ks1ii3pj3gt",
    "ui5spihmhih9tq1nk3qniiiiqhqi5kphhihhkhi6nthj6q1ietnin1ti5ivhh6qr6nu10htfnmhiiijhhh8unimkh1sq2q",
    "lhk1ir2uu19nohn5j1mhu7qmjhhihjhhjh4ilhihk15skpihh3gnjj41dt1he2ghh3nnk5ti4cash236hnh1hinhihl6kh",
    "8bnh7eo1qm1qm1q"]),
  ("Other_Default_Ignorable_Code_Point",
    "34vhe0vi65ji8avh10fuhce3rh4vpd000nhh1u6g8gfge1g"),
  ("Other_Grapheme_Extend",
    String.join [
    "9buh1oh16mh1oh6mh1oheohhhkihipi6nh1oh7nhvh93lh1uh40ghlhhhli6lh4ni41oh102hi792jh6sh55dti122gh7k",
    "h10ohuhph6ghphihhjlheghshfhh10mh27phsh60jh50aui617jimmc2eat6g"]),
  ("Other_ID_Continue",
    "bnh2cvhfehp66oh63hi10ethce6ph"),
  ("Other_ID_Start",
    "188li89hh1lhf6si"),
  ("Other_Lowercase",
    "aqhvh1flpni1ul6gh3khd8hhc2v3vth2i2l2bhhth1gtdj1g35g1q79ii7a1uidih8hjji36ikph5c1mhijh2qhpd87l3u"),
  ("Other_Math",
    String.join [
    "5uh37hjih1qiii1c2gh1rjrh2gk1oiui4htkhjikl1ihkhiqhhjlmhjiiihjhmjkll4rlikhihihhhliikik1iiihhhnhh",
    "mi12ikaoihh1oh1hh1btispllliiijluhhhim1oi3phhh1tkpi15mi1vq19j1m3vk2gid46jhhhkhdjhhhd4ch5lh4nhii",
    "hiiikhshhhnh4hhkiohnh1shkhlhhjnh15ki1ph1ph1vh1ph1vh1ph1vh1ph1vh1phoi3i160gkh1rhihhihhqhkhhhhmh",
    "khhhhhhjhihhihhhhhhhhhhihhikhnhkhkhhhqh1hljhlh1h"]),
  ("Other_Uppercase",
    "216g1g34m1q1cc6g1qm1qm1q"),
  ("Pattern_Syntax",
    "2hvqn1qkhh1qk2inhhhihhhikhkhjh1nh1vh1f1o1oovi1jhq13h2dgag27m1u46s20g8g18hjk1pvhcd0ti10li"),
  ("Pattern_White_Space",
    "pl1ih6kh1f8oi1oi"),
  ("Prepended_Concatenation_Mark",
    "60gmdnh3hh18gi5gh107dqhvh"),
  ("Quotation_Mark",
    "2ihkh8jhvh1f5so1pie0nh1cpktjce2hkbthkh5qi"),
  ("Radical",
    "2e8g1qh5psdm"),
  ("Regional_Indicator",
    "1f1em1q"),
  ("Sentence_Terminal",
    String.join [
    "2hhsh1gh54ph9jjbkh2rjfmh3thhhji12li6eki31mhki30lhcmi9ti2thlh13qi16ikaiiqiii1tjbri4hi3akh1nipjc",
    "avj13ihth1mi1ath74fsh10uiejhjh17ui5mi5vh9oi9jj9gifph522mhii3rhjiaphsh1gh4hhafki4ftl2skbti7lk7v",
    "j8himh1gi5oihi6sh12qi7li17lilv6pifpj20lhhhfri5ni1aki2bki4qi4b2pi8lh4hirh22pi12oh4e0mh1deoh"]),
  ("Soft_Dotted",
    String.join [
    "6pickh11ph1uh3kh1kh14gh6ihhh190ph3jhthjh8kh9th1alhdmib3ih1a7ali3ii3ii3ii3ii3ii3ii3ii3ii3ii3ii3",
    "ii3ii88mh13hi1qh"]),
  ("Terminal_Punctuation",
    String.join [
    "2hhqhhhrijh33uhoh20hh3ph4ohuhhjbkh2rrhheri3mmho1vh10li4fkiashkm13ni31lo30lh7sj4ni9tjjh2nkii13q",
    "i16ikaiiqihj1tjbrl3ui3akh1nipjcavj13ihthkhqhhiji1asi74fri10tjejl17ui5mi5vh9nj9jj7vh1gifph522mh",
    "ii3pjhkaphqhhhrijh4hhih43qh3gh48mhcnh13mi9om4km5pk3bol2skbtn7gk7vj8himh1gi5ol6sh12qi7ljsi16mkj",
    "v6pifpj20lhhhfri5niki19uj2th28li4qi52rl45fpi8lh4hjqh22pi12ni4e0mh1denk"]),
  ("Unified_Ideograph",
    "340g19cg4g520g5a0uihhhiqhhhhiij105dma6eg2g103qmdui168iu1d3hv26u11ai134rl106g"),
  ("Uppercase",
    String.join [
    "4h1q6l1nhn2hhhhhhhhhhhhhhhhhhhhhhhhhhhhhhhhhhhhhhhhhhhhhhhhhhhhhhhhihhhhhhhhhhhhhhhihhhhhhhhhh",
    "hhhhhhhhhhhhhhhhhhhhhhhhhhhhhhhhhhhhihhhhjihhhihjikhihjjihihhhhhihhihhihjhhhijhnhihihihhhhhhhh",
    "hhhhhhhihhhhhhhhhhhhhhhhhihihhjhhhhhhhhhhhhhhhhhhhhhhhhhhhhhhhhhhhhhhhhhhhhhhhhhhhhhhhhhhnihii",
    "hhkhhhhhhhh12hhhhjhohmhhjhhhih1hhp2jhijjhhhhhhhhhhhhhhhhhhhhhhhlhihhii3j3ghhhhhhhhhhhhhhhhhhhh",
    "hhhhhhhhhhhhhphhhhhhhhhhhhhhhhhhhhhhhhhhhhhhhhhhhhhhhhhhhhhhhhhhhhhhihhhhhhhhhhhhihhhhhhhhhhhh",
    "hhhhhhhhhhhhhhhhhhhhhhhhhhhhhhhhhhhhhhhhhhhhhhhhhhhhhhhhhhhhhhhhhhhhhhhhhhhhhhhhhhhi2mb4p2mhhl",
    "h2di5m89jhm2rij14ghhhhhhhhhhhhhhhhhhhhhhhhhhhhhhhhhhhhhhhhhhhhhhhhhhhhhhhhhhhhhhhhhhhhhhhhhhhh",
    "hhhhhhhhhhhhhhhhhhhhhhhhhhhhhhhhhhhhhhhhhhhhhhhhhhhhhhhhhhhhhhhhhhhhhhhhhphhhhhhhhhhhhhhhhhhhh",
    "hhhhhhhhhhhhhhhhhhhhhhhhhhhhhhhhhhhhhhhhhhhhhhhhhhhhhhhhhhhhhhhhhhhhhhhhhhhhhpoomqoooomrhhhhhh",
    "hoo4okskskslrk10mhkhjjijihjlmhhhhhhkikqilh1q1g1jh33i1q73g3g3ghhjihhhhhhkhhihojhhhhhhhhhhhhhhhh",
    "hhhhhhhhhhhhhhhhhhhhhhhhhhhhhhhhhhhhhhhhhhhhhhhhhhhhhhhhhhhhhhhhhhhhhhhhhhhhhhhhhhohhhkh794thh",
    "hhhhhhhhhhhhhhhhhhhhhhhhhhhhhhhhhhhhhhhhhhh1jhhhhhhhhhhhhhhhhhhhhhhhhhhh8nhhhhhhhhhhhhhjhhhhhh",
    "hhhhhhhhhhhhhhhhhhhhhhhhhhhhhhhhhhhhhhhhhhhhhhhhhhhhhhhqhhhhihhhhhhhhkhhhihhhjhhhhhhhhhhhhhhhh",
    "hhhhlhlhhhhhhhhhhhhhhhkhhhijhlhhhhhhh1oh572r1q4cl2o8o2k9srhvhnhi6eq3j9t1mb3q2g558g2g65ag1q1q1q",
    "1q1q1qhhiihiiikho1q1q1qihkiohn1rihkhlhhjn1r1q1q1q1q1q1q1q1q1q1q1q1u1p2h1p2h1p2h1p2h1p2hh113l2i",
    "80u1qm1qm1q"]),
  ("Variation_Selector",
    "180rjhhe5fg1gd02fgfg"),
  ("White_Space",
    "pl1ih6kh1qh15dvh97vr1tilh2vhfagh"),
  ("XID_Continue",
    String.join [
    "3gqn1qkhh1q2vhqhhhihl1nh1vh1cqksulnhhh1h7lhijjhhmlhhh1kh5jh8rhliamh2mihm2po2thhhihihho1rkk1trl",
    "4qk6mhoiqh1jih1g3ri6lu3mkhihi2u1i1skrl1ohmo4rh8hiqh1jhoiii1mhnhhjkipiiikohkihlisqhhhijhmkii1mh",
    "nhihihiihhlkiijjhnkhhn1grjhphjh1mhnhihliqhjhjihvkiqpnhjhoiii1mhnhihlipiiijnjkihliqhh1gihmjjhkj",
    "ihhhijijjjskljjhkihmhuq1gthjh1nh1giphjhknihjihikiq1gkhohjh1nhqhliphjhknimihkiqhjsthjh3jhjhllkn",
    "liqqmhjh1ij1ohphhinjhkmhhhomqiit3qlvhq2nihhhlh1ohhh1nilhhhnhqik2gh1nimqrhhhhhkqh2kk1kh1ih2kph3",
    "p4qm4ui2mhhlhi2rh14thkinhhhki2phki2hhkinhhhkivh3phki4jijppu1g1g5mimj26si1hh1ql4rjrn1mp1mr1ksth",
    "jhis5kjhkiiq2hjhrm5pn2rl4mq1vhsksq2oilr2sk1qmr2l1sk3vh1tirmqthouh1g3h4tjq1hps7ks3ooqj3hirl2rij",
    "1gjh2nl21mimi2mimiohhhhhhh1vi3lhnhhjjhnjkimktljhnvi3hi1jh1shth1gt3jtkhjs1hhkhiqhhimmhhhhhh1gik",
    "llkh1h2pa7nelmps2mhhlhi3onhv1opnhnhnhnhnhnhnhnh2g20lj1pvhlilk5miiijh5vl2rh5u1h2g3g1g20g19cg4g5",
    "68t4j2ui10tj1s1k3gkqh7j2lpi6ni4jiihhho1l3mkh1j3ks4mqqm1ojhh3hi2ks1tj4hurm1vh3npuiqm1nj4p1oji1g",
    "ilqmimimpnhnh2rhum7rhiiqm2baks1nk3h210k16ui6q2mnsllshthlhhhihih6s2h8rmdq1i4gi3m2oqm1g1g1gji1oj",
    "2hhhhjhhhhhhhh7u1jqn1qkhh1qq5qjmimimij2jsh1qh1jhihviu2i7r4l3l8oh8i1tj3hvh1v2gt1ul2rl1ui2kkohl2",
    "q9uiqm2kk2kk2oo3ksrhvhnhihrhvhnhij3ks13np1mqo1omh2qhp4lmihh2shijhi1nq1np1v4h1jhiq1mq1q4m3omi4g",
    "khilohjh1tijkh2g1tj1t2joh1u1p3mq1mq1jt1i6u4p3n3jt3jt2ooqm2mjlh1nfq2qhiji1gj3n2hqho2h1v1m2q1l1r",
    "1np4n1v1gp3snht1pnqm3lhqkko2kihp4lkkhthh2j1ih2lmk3unhhhkhvhqn3rlqmkhoiii1mhnhihlhqiiijihmhlnin",
    "jlrqhhihh2mhqhhihhkhoti1t4rlqkk1u4mhhoqam3mip1nm2i4hjhrq2m3pnqm1k1s1rivkqmnbp3r6l4q1loihiohih1",
    "uhiipsq4moi2uiohi1r3voho4qjh1i4pcn2hvqmph2thpvq1o1ui1mhu4pnhih2sjhhihpoqmmhih2lhihmnq13m1np1hh",
    "2pjltr5lh4v39q6m6v1hcka4s6hv43g1g1mqf9rl24n1abp3q6cm23pn1vhqm4vhqm1uilr3npksqp1ll1j1bg2tjqcm4g",
    "8g4rk3pn1h4gihiriu17foo4dm2pq22enkhnhih12jvh1tjihuko18s90k6rltjpnqji105hq20m2ui1n21uljmooin1uk",
    "9kj1br5lh4nhiihiiikhshhhnh4hhkiohnh1shkhlhhjnh15ki1ph1ph1vh1ph1vh1ph1vh1ph1vh1phoi3i20g3nk3ioh",
    "uh1mlhv45g1vmmdlnh1hinhihll3u2hh7g2tjuiqkh14h1v1h3q1dm2qdm2r1elnhkhihvhclrn2p4skq4amkh1rhihhih",
    "hqhkhhhhmhkhhhhhhjhihhihhhhhhhhhhihhikhnhkhkhhhqh1hljhlh1hd3kq40ma6eg2g103qmdui168iu1d3hv26u9a",
    "i21u5ei134rl106gadd5gfg"]),
  ("XID_Start",
    String.join [
    "4h1qm1q2vhqhkhl1nh1vh1cqksulnhhh8hlhijjhhmhhjhhh1kh5jh8roamh2mihm2p4n1rkk2t2r2jih6jhhviniqjih1",
    "ghh1u1t5prh1o2hpikhl1mkhphjh1n1pnrl1ohm1h2q3q3mjh1ihnqv1gkoiii1mhnhhjkjh1ghtihjuiqhomkii1mhnhi",
    "hihi1vkhh1jj1gphjh1mhnhihljh1ihvi1nhroiii1mhnhihljh1uihjvh1hhhmjjhkjihhhijijjjs1mh3kohjh1nh1gj",
    "h1qjihii1uhkohjh1nhqhljh1vihivi1hphjh2pih1ghljoj1oml1ij1ohphhin3q3ghhtn3qihhhlh1ohhhqhhqhilhh1",
    "lk2gh3voh2k1rl7j2r1kh1gmkkjhjinjktsh1h2mhhlhi2rh14thkinhhhki2phki2hhkinhhhkivh3phki4j2l1g1g5mi",
    "mj26si1hh1ql4rjrn1it1ju1iuthjv3k2jhkh4j5pn2phhl4mq1v3h1uilr2sk1q3m1np3l5ih5t2v1ho3m1utiq2s1q2k",
    "2pjq2kirl2rij2pkhmhijhlcg4g11mimi2mimiohhhhhhh1vi3lhnhhjjhnjkimktljhn7khth1gt6lhkhiqhhimmhhhhh",
    "h1gikllkh1h2pa7nelmkjis2mhhlhi3onh1g1npnhnhnhnhnhnhnhn22mj1ppnlilk5mmjh5qhkl2rh5u1h2g3g1g20g19",
    "cg4g568t4j2ui10tj1gqi1k2v1g1vi5g2npi6ni4jiihhho1l1ghjhkh1n1t3ku3i3umjhhir1sq1n1p1tn2v1sh1glhqq",
    "lh2p1njho1k1njhj3ihhjiilihhh1ojirnjsmimimpnhnh2rhum7j1t2baks1nk3h210k16ui6q2mnsllhhqhthlhhhihi",
    "h6s2h8rmdq1i4gi3m2oq7nhhhjhhhhhhhh7u2k1qm1qr3oi1vjmimimij2jsh1qh1jhihviu2i7r4l3l10r1tj3h2v2gt1",
    "ul2mq1ui2kkohl2q9u1i2kk2kk2oo3ksrhvhnhihrhvhnhij3ks13np1mqo1omh2qhp4lmihh2shijhi1nq1np1v4h1jhi",
    "q1mq1q4m3omi4ghvkhjh1t2q1tj1t2joh1s1r3mq1mq1jt1i6u4p3n3jt3jt2k2m1sp1nfq2qmi1gj3r1tqho1m2q1i2u1",
    "l1r1ns3l3piiht2t2g1p1q2k1thiho2jjhs3guk1lhhh2j1ih1p1ji3vnhhhkhvhqn2v2moiii1mhnhihljh1ihsl1uqhh",
    "ihh2mhh1phhh2s3l1ik1kj1u3g1kihhbo2v2pk2k3g1kh3r2rth4n1r2lnbp2s7k4g1voihiohih1ovhhh5uoi2n1ghhh1",
    "shq2onh1lhr2u1jh1i4pcn2h1vph2l1hh3h1u7gnhih2m1lh1pmhih2guh14n1jvhhth2i7sh4v39q6m6v1hcka4s6hv43",
    "g1hm1pf9rl24n1abp1u6ei23pn1v1h4v1h1u1i3g1gk1v1ll1j1bg2tdj4g8g4rlh4it4gihh1s17foo4dm2pq22enkhnh",
    "ih12jvh1tjihuko18s90k6rltjpnq176m5lh4nhiihiiikhshhhnh4hhkiohnh1shkhlhhjnh15ki1ph1ph1vh1ph1vh1p",
    "h1vh1ph1vh1pho73k1vmm10l3u9i2tqn1gh14h1u1i2s1ek1sek1uih1evnhkhihvhcl3r4knh4bkkh1rhihhihhqhkhhh",
    "hmhkhhhhhhjhihhihhhhhhhhhhihhikhnhkhkhhhqh1hljhlh1h114ka6eg2g103qmdui168iu1d3hv26u9ai21u5ei134",
    "rl106g"])]

end ClassMetrics.Unicode
