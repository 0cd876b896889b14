import ClassMetrics.Prelude

/-!
The letters and numbers of Unicode 17.0, each as a packed set table: run lengths, alternately
outside and inside the set from code point 0 on. The names of groups are read with these, a later
version of the database than the classes of a pattern.
-/

namespace ClassMetrics.Unicode

/-- The code points of the Alphabetic property. -/
def letterTable : String :=
  String.join [
  "4h1qm1q2vhqhkhl1nh1vh1cqksulnhhh5mh1t1ihiikhhmhhjhhh1kh5jh8roamh2mihm2p2nuhhhihihho1rkk1trl3oh",
  "nu6mhokokjqjih1g3gt6l1o2hpikhl1oi1j1j1pnrl1ohnnho2qqsjnm4sh1ghjkvt1jhoiii1mhnhhjkjoiiiihhohkih",
  "lsiqhkjhmkii1mhnhihihiklkiiikhnkhh1hmrjhphjh1mhnhihljphjhijhvk1lkkjhoiii1mhnhihljoiiiipikihlth",
  "1gihmjjhkjihhhijijjjskljjhjjhmh2othjh1nh1gjohjhjoihjhiik1skhohjh1nhqhljohjhjoiljhktjsthjh2pioh",
  "jhjhhlknl1mmhjh1ij1ohphhinomhhho1iit3qlnmh3jihhhlh1ohhh1jhjilhhmhuk2gh3voh2kk1jk1gh2k4j3nhhil1",
  "g4gqki2mhhlhi2rh14thkinhhhki2phki2hhkinhhhkivh3phki4j2l1g1g5mimj26si1hh1ql4rjrn1kr1ls1ksthjhis",
  "3ki1juhkh4j5pn2rl4mq1vhskp1n1uilr2sk1q3m1sk3vi1k3ih1nirj3h3khvho3j2qikq2shru3n1mjq2kirl2rij2pk",
  "hmhijhlcg1j2ir11mimi2mimiohhhhhhh1vi3lhnhhjjhnjkimktljhn7khth1gt6lhkhiqhhjlmhhhhhhkhrikllkh1h2",
  "p32t3k71melmkjis2mhhlhi3onh1g1npnhnhnhnhnhnhnhnh2g2vh1dlj1ppnlilk5mmjh5qhkl2rh5u1h2g3g1g20g19c",
  "g4g568t4j2ui10tj1gqi1k2vloj7h2npi6ni5i1k1lh2h1o3ks4khh2smjhhjq2hl2jt1tj3jhsvh1g1gqlh3npu1i1nj4",
  "lhhhh1oji1gikrmimimpnhnh2rhum7r1l2baks1nk3h210k16ui6q2mnsllshthlhhhihih6s2h16r1i4gi3m2os7klh8n",
  "2k1qm1qr5pjmimimij2jsh1qh1jhihviu2i7r4l3l10r1tj3h2v2gt1ul2rl1ui2kkohl2q9u1i2kk2kk2oo3ksrhvhnhi",
  "hrhvhnhij3ks13np1mqo1omh2qhp4lmihh2shijhi1nq1np1v4h1jhiq1mq1qm1q2m3omi4gkhilohjh1t2q1tj1t2joh1",
  "s1r3mq1mq1jt1i6u4p3n3jt3jt2o2i1sjhl1nfq2qhiji1gm3ijj1tqho1m2q1i2u1l1r1np4m2rlq3ppht1p1n3j1hko2",
  "jjhp4ghkpiqhhh2j1ih2iihmk3unhhhkhvhqn3p1nkhoiii1mhnhihljoiiiijhmhln1sqhhihh2mhqhhihhkhijhhh2s4",
  "ihjhk1kj1u4iiihhbo3min1pm2i3vhhjh3r3mih4n1riu1lnbp3p6n4g1voihiohih1uhiiiik5toi2uimhhhi1r3jiq1h",
  "4olh1i4p6no5o2h1vph2thnhh3h1ui1mhu4pnhih2sjhhihjhhii1omhih2lhihkhh1n2s10k1np1hh2pjj6vh4v39q6m6",
  "v1hcka4s6hv43g1hm1pf9rl24n1abp2v6dh23pn1v1h4v1h1u1i3g1gk1v1ll1j1bg2tdj4g2g1pi1p2s4rk3pn1h4gihh",
  "snp1cdm2p2g6h7j21ftkhnhih12jvh1tjihuko18s90k6rltjpnqkh176h5lh4nhiihiiikhshhhnh4hhkiohnh1shkhlh",
  "hjnh15ki1ph1ph1vh1ph1vh1ph1vh1ph1vh1pho73k1vmmdlnh1hinhihll3u2hh7g2tqn1gh14h1u1i2s1ek1sek1uihc",
  "v1vh1moiegnhkhihvhcl3r4kjhjh4bkkh1rhihhihhqhkhhhhmhkhhhhhhjhihhihhhhhhhhhhihhikhnhkhkhhhqh1hlj",
  "hlh1h27k1qm1qm1qe7ma6eg2g111ui168ui1d3hv26u9ai21u5ei134rl212q"]

/-- The code points of the Number categories: decimal digits, letter numbers and other numbers. -/
def numberTable : String :=
  String.join [
  "3gq7oilhij5ahq8mqcmq19sq7mqkm6sq7mq7mqim6ut7jqon6nq6onn1j6tq6gq7mq4m1k10sq4mq2cv1k37hjevqmq1mq",
  "12sq8gralqmqbmq5mq8mqmq41mhjmmqcm3jil2dm3s4u1m27m1u56ph30ph1ppuj15nk8qq1uohv2gq2nv736gqbsq14gm",
  "9qq2mqcmq1mq5mq19mq531mq1et2ts3p1hi15l1r2kk1thoh8mlcqq3auo1pn2np4rl1mmagii1gi2u4gp3ki1uj4rl6oo",
  "1oo2pn14qm3gqmq11m1v9uq2qk7gn8m1u8gq3sq9gqn1kfrq15mq7mq17mq6mqm1k4ss1ak1j5tq29mq5m1tejq4mq3mq1",
  "6mq6m1l42r6v3cchq92mq5mq8mqhn20uq10m1n15tj5cfpq5cm1ks1k6s1p45l3i94gq1amq1fmqfnq2csp8gq31n3rhjh",
  "k4s2thv3citaejq"]

end ClassMetrics.Unicode
