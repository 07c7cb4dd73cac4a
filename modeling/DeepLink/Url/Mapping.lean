import DeepLink.Unicode.Table

namespace DeepLink.Url

inductive Mapping where
  | kept | dropped | refused
  | moved (up : Bool) (distance : Nat)
  | replaced (others : List Char)
deriving DecidableEq, Repr

namespace Mapping

def targets (s : List Char) : List Char :=
  (Text.split 'T' s).map fun n => Char.ofNat (Unicode.Table.numeral n)

def read : List Char → Mapping
  | ['V'] => kept
  | ['I'] => dropped
  | 'U' :: s => moved true (Unicode.Table.numeral s)
  | 'D' :: s => moved false (Unicode.Table.numeral s)
  | 'T' :: s => replaced (targets s)
  | _ => refused

def mappingRuns : List String :=
  -- kept (V), dropped (I), refused (X), moved up (U) or down (D) by a number, replaced by others (T)
  ["1tV qUw 11V wX D3k 7V TwTlk V D21 2V I V TwTlg 2V 2D3k TwTld Ulj 2V TwTmf D3s D23 V T1dT6dgT1g",
    "T1dT6dgT1e T1fT6dgT1g V nUw V 7Uw xV U1 V U1 V U1 V U1 V U1 V U1 V U1 V U1 V U1 V U1 V U1 V U1",
    "V U1 V U1 V U1 V U1 V U1 V U1 V U1 V U1 V U1 V U1 V U1 V U1 V T2xTlj V 2T2xT2y U1 V U1 2V U1 V",
    "U1 V U1 V 2T30T53 U1 V U1 V U1 V U1 V TjgT32 U1 V U1 V U1 V U1 V U1 V U1 V U1 V U1 V U1 V U1 V",
    "U1 V U1 V U1 V U1 V U1 V U1 V U1 V U1 V U1 V U1 V U1 V U1 V U1 V D3d U1 V U1 V U1 V D7g V U5u",
    "U1 V U1 V U5q U1 V 2U5p U1 2V U27 U5m U5n U1 V U5p U5r V U5v U5t U1 3V U5v U5x V U5y U1 V U1 V",
    "U1 V U62 U1 V U62 2V U1 V U62 U1 V 2U61 U1 V U1 V U63 U1 3V U1 7V 3T2sTam 3T30T2y 3T32T2y U1 V",
    "U1 V U1 V U1 V U1 V U1 V U1 V U1 2V U1 V U1 V U1 V U1 V U1 V U1 V U1 V U1 V U1 2V 3T2sT3e U1 V",
    "D2p D1k U1 V U1 V U1 V U1 V U1 V U1 V U1 V U1 V U1 V U1 V U1 V U1 V U1 V U1 V U1 V U1 V U1 V",
    "U1 V U1 V U1 V D3m V U1 V U1 V U1 V U1 V U1 V U1 V U1 V U1 V U1 7V U8bv U1 V D4j U8bs 2V U1 V",
    "D5f U1x U1z U1 V U1 V U1 V U1 V U1 2pV Dg8 D23 Dg8 Dg1 D1n D1m D1h Dg0 Dfz vV TwTli TwTlj",
    "TwTlm TwTmg TwTlf TwTln 2V D3h Dhh Dhb Dh7 D27 2jV 2D1s V D1c TlkTld U38 9V I wV U1 V U1 V D57",
    "V U1 V 2X TwTqh 3V Dn7 U38 4X TwTld TwTlkTld U12 Dk0 3U11 X U1s X 2U1r V hUw X 9Uw zV U8 Du Dp",
    "Dd D6 D9 Df Dm V U1 V U1 V U1 V U1 V U1 V U1 V U1 V U1 V U1 V U1 V U1 V U1 V D1i D1c D1b V D1o",
    "D1s V U1 V D1i U1 2V 3D3m gU28 wUw 1cV U1 V U1 V U1 V U1 V U1 V U1 V U1 V U1 V U1 V U1 V U1 V",
    "U1 V U1 V U1 V U1 V U1 V U1 9V U1 V U1 V U1 V U1 V U1 V U1 V U1 V U1 V U1 V U1 V U1 V U1 V U1",
    "V U1 V U1 V U1 V U1 V U1 V U1 V U1 V U1 V U1 V U1 V U1 V U1 V U1 V U1 V Uf U1 V U1 V U1 V U1 V",
    "U1 V U1 V U1 2V U1 V U1 V U1 V U1 V U1 V U1 V U1 V U1 V U1 V U1 V U1 V U1 V U1 V U1 V U1 V U1",
    "V U1 V U1 V U1 V U1 V U1 V U1 V U1 V U1 V U1 V U1 V U1 V U1 V U1 V U1 V U1 V U1 V U1 V U1 V U1",
    "V U1 V U1 V U1 V U1 V U1 V U1 V U1 V U1 V U1 V U1 V U1 V U1 V U1 V X 12U1c 2X 1aV T12dT136 3V",
    "2X 3V X 1jV 8X rV 4X 6V hX mV X 2gV T17rT19w T18oT19w T1c7T19w T18qT19w 2sV X 1cV 2X 1nV 2X",
    "2tV eX 1nV 2X 1dV 2X fV X sV 2X V X bV 5X wV 7X 23V X 39V T1slT1to T1smT1to T1snT1to T1ssT1to",
    "T1sxT1to T1syT1to T1t7T1to T1tbT1to 10V X 8V 2X 2V 2X mV X 7V X V 3X 4V 2X 9V 2X 2V 2X 4V 8X V",
    "4X T1whT1x8 T1wiT1x8 X T1wvT1x8 4V 2X pV 2X 3V X 6V 4X 2V 2X mV X 7V X V T20iT20s X V T20oT20s",
    "X 2V 2X V X 5V 4X 2V 2X 3V 3X V 7X T1zqT20s T1zrT20s T1zwT20s V X T20bT20s 7X hV aX 3V X 9V X",
    "3V X mV X 7V X 2V X 5V 2X aV X 3V X 3V 2X V fX 4V 2X cV 7X 7V X 3V X 8V 2X 2V 2X mV X 7V X 2V",
    "X 5V 2X 9V 2X 2V 2X 3V 7X 3V 4X T275T27w T276T27w X 5V 2X iV aX 2V X 6V 3X 3V X 4V 3X 2V X V X",
    "2V 3X 2V 3X 3V 3X cV 4X 5V 3X 3V X 4V 2X V 6X V eX lV 5X dV X 3V X nV X gV 2X 9V X 3V X 4V 7X",
    "2V X 3V X 2V 2X 4V 2X aV 7X mV X 3V X nV X aV X 5V 2X 9V X 3V X 4V 7X 2V 5X 3V X 4V 2X aV X 3V",
    "cX dV X 3V X 1fV X 3V X 6V 4X gV 2X qV X 3V X iV 3X oV X 9V X V 2X 7V 3X V 4X 6V X V X 8V 6X",
    "aV 2X 3V cX 1eV T2tpT2sy 7V 4X tV 11X 2V X V X 5V X oV X V X cV T2x9T2wi aV 2X 5V X V X 7V X",
    "aV 2X T2wbT2vt T2wbT2w1 2V wX cV D1 1iV T30iT33r 4V X 4V T30sT33r 4V T30xT33r 4V T312T33r 4V",
    "T317T33r cV T30gT33p 3V 4X 2V T31tT31u V T31tT31w T33mT328 T33mT31tT328 T33nT328 T33nT31tT328",
    "7V T31tT328 hV T32qT33r 4V X 4V T330T33r 4V T335T33r 4V T33aT33r 4V T33fT33r cV T32oT33p 3V X",
    "fV X dV 11X 4gV 12U5ls X U5ls 5X U5ls 2X 18V Dw 2qV 2I 6gV X 4V 2X 7V X V X 4V 2X 15V X 4V 2X",
    "xV X 4V 2X 7V X V X 4V 2X fV X 1lV X 4V 2X 1vV 2X wV 3X qV 6X 2eV 2X 6D8 2X hsV X sV 3X 2hV 7X",
    "mV 9X oV 9X kV cX dV X 3V X 2V cX 1gV 2I 14V 2X aV 6X aV 6X bV 5I aV 6X 2hV 7X 17V 5X 1yV aX",
    "vV X cV 4X cV 4X V 3X 16V 2X 5V bX 18V 4X qV 6X bV 3X 1qV 2X 1tV X tV 2X bV 6X aV 6X eV 2X 1aV",
    "2X cV kX 25V X 4mV 8X 1oV 3X fV 3X 1fV D4su D4st D4sk 2D4si D4sj D4sc D4ro Ur7n U1 V 5X 17D2bk",
    "2X 3D2bk 8V 8X 17V 5X 18V D5or D5l3 D5os V 2D5os D5ed 8D5os V D5ot D5cq D5ou D5ot 2D5os D5or",
    "D5pe 2D5bo D1w D5ph 2D5pg D5bl 2D5bk D5pi V D5pg D5pf D5ja D5pf D5bz 2D1q D5pi 2D5pf D1o D5bf",
    "D5ph D1j 3D52j 2D522 D5q1 D5pt 2D5pr 2D52s D52f 2D52b dV D4zf yV D5e1 D5rt D5e0 D5ny D5dv D5ru",
    "D5du D5dt D5dq 3D5do D18 D5cb D5do D11 D5cc D5dn D5dp 4D5do D5dm 2D5dd D5je 2D5d9 D4c 2D5da",
    "D5s1 3D5d8 D553 1sV U1 V U1 V U1 V U1 V U1 V U1 V U1 V U1 V U1 V U1 V U1 V U1 V U1 V U1 V U1 V",
    "U1 V U1 V U1 V U1 V U1 V U1 V U1 V U1 V U1 V U1 V U1 V U1 V U1 V U1 V U1 V U1 V U1 V U1 V U1 V",
    "U1 V U1 V U1 V U1 V U1 V U1 V U1 V U1 V U1 V U1 V U1 V U1 V U1 V U1 V U1 V U1 V U1 V U1 V U1 V",
    "U1 V U1 V U1 V U1 V U1 V U1 V U1 V U1 V U1 V U1 V U1 V U1 V U1 V U1 V U1 V U1 V U1 V U1 V U1 V",
    "U1 V U1 V U1 5V T2pTji D1m 2V D5vj V U1 V U1 V U1 V U1 V U1 V U1 V U1 V U1 V U1 V U1 V U1 V U1",
    "V U1 V U1 V U1 V U1 V U1 V U1 V U1 V U1 V U1 V U1 V U1 V U1 V U1 V U1 V U1 V U1 V U1 V U1 V U1",
    "V U1 V U1 V U1 V U1 V U1 V U1 V U1 V U1 V U1 V U1 V U1 V U1 V U1 V U1 V U1 V U1 V U1 9V 8D8 6V",
    "2X 6D8 2X 8V 8D8 8V 8D8 6V 2X 6D8 2X 8V X D8 X D8 X D8 X D8 8V 8D8 V D5hh V D5hi V D5hj V D5hk",
    "V D5gt V D5gu V D5gv 2X T64gTqh T64hTqh T64iTqh T64jTqh T64kTqh T64lTqh T64mTqh T64nTqh",
    "T64gTqh T64hTqh T64iTqh T64jTqh T64kTqh T64lTqh T64mTqh T64nTqh T65cTqh T65dTqh T65eTqh",
    "T65fTqh T65gTqh T65hTqh T65iTqh T65jTqh T65cTqh T65dTqh T65eTqh T65fTqh T65gTqh T65hTqh",
    "T65iTqh T65jTqh T674Tqh T675Tqh T676Tqh T677Tqh T678Tqh T679Tqh T67aTqh T67bTqh T674Tqh",
    "T675Tqh T676Tqh T677Tqh T678Tqh T679Tqh T67aTqh T67bTqh 2V T67kTqh Tq9Tqh Tq4Tqh X V T69iTqh",
    "2D8 D22 D5jj Tq9Tqh TwTlv D5j9 TwTlv TwTn6 TwTlkTn6 T67oTqh TqfTqh Tq6Tqh X V T69yTqh D2e D5jw",
    "D2e D5jx TqfTqh TwTlvTlc TwTlvTld TwTlvTn6 3V D5kz 2X 2V 2D8 D2s D5kc X TwTlwTlc TwTlwTld",
    "TwTlwTn6 3V D5kj 4V 2D8 D34 D5jy D7 TwTlkTlc TwTlkTld D68f 2X T67wTqh TqxTqh Tr2Tqh X V",
    "T6baTqh D3k D5kd D3i D5kd TqxTqh TwTld TwTlw X bTw I 2V 2X V D1 5V TwTmr cV 3X V 7X D6bz 3V",
    "T6cyT6cy T6cyT6cyT6cy V T6d1T6d1 T6d1T6d1T6d1 4V TxTx V TwTlh 8V T1rT1r T1rTx TxT1r dV",
    "T6cyT6cyT6cyT6cy 7V D6db 5I 5X 6I D6dc D6bs 2X 6D6dc D6dr Ubb D6db 2D6dx D6c1 aD6ds D6e7 Uav",
    "D6dr 2D6ed X D6cv D6cs D6cj D6cb D5yz D6ct 4D6cr D6cq 2D6co 3X 8V T36T37 pV eX xV fX T2pT1bT2r",
    "T2pT1bT37 D6fz T4wT2r V T2rT1bT33 T2rT1bT39 D624 V T4wT2u 2D6g3 3T2w D6aw 2T2x 2T30 V D6g7",
    "T32T33 2V 3D6g9 2T36 2V T37T31 T38T2tT30 T38T31 V D6ga V D5st V D6ge V D6gv D6di 2D6h6 V 2T2t",
    "D6h7 Us D6h2 D6h1 4D5et D6hc V T2uT2pT3c D5to 2Tqb D5tr U5t 4V 2T2s D6hu 2D6hr 6V T1dT6dgT1j",
    "T1dT6dgT1l T1dT6dgT1dT1c T1dT6dgT1f T1eT6dgT1f T1dT6dgT1h T1eT6dgT1h T1fT6dgT1h T1gT6dgT1h",
    "T1dT6dgT1i T1hT6dgT1i T1dT6dgT1k T1fT6dgT1k T1hT6dgT1k T1jT6dgT1k T1dT6dg D6if T2xT2x",
    "T2xT2xT2x T2xT3a D6i6 T3aT2x T3aT2xT2x T3aT2xT2xT2x T2xT3c D6i9 T3cT2x T3cT2xT2x D6io 2D6iy",
    "D6iq D6iv T2xT2x T2xT2xT2x T2xT3a D6im T3aT2x T3aT2xT2x T3aT2xT2xT2x T2xT3c D6ip T3cT2x",
    "T3cT2xT2x D6j4 2D6je D6j6 3V U1 5V T1cT6dgT1f 2V 4X 4cV T6qzT6qz T6qzT6qzT6qz V T6r2T6r2",
    "T6r2T6r2T6r2 6wV 2U2jj 73V mX bV lX 9D75b T1dT1c T1dT1d T1dT1e T1dT1f T1dT1g T1dT1h T1dT1i",
    "T1dT1j T1dT1k T1dT1l T1eT1c T14T1dT15 T14T1eT15 T14T1fT15 T14T1gT15 T14T1hT15 T14T1iT15",
    "T14T1jT15 T14T1kT15 T14T1lT15 T14T1dT1cT15 T14T1dT1dT15 T14T1dT1eT15 T14T1dT1fT15 T14T1dT1gT15",
    "T14T1dT1hT15 T14T1dT1iT15 T14T1dT1jT15 T14T1dT1kT15 T14T1dT1lT15 T14T1eT1cT15 kX T14T2pT15",
    "T14T2qT15 T14T2rT15 T14T2sT15 T14T2tT15 T14T2uT15 T14T2vT15 T14T2wT15 T14T2xT15 T14T2yT15",
    "T14T2zT15 T14T30T15 T14T31T15 T14T32T15 T14T33T15 T14T34T15 T14T35T15 T14T36T15 T14T37T15",
    "T14T38T15 T14T39T15 T14T3aT15 T14T3bT15 T14T3cT15 T14T3dT15 T14T3eT15 qD76d qD773 D796 10hV",
    "T6qzT6qzT6qzT6qz 2vV T1mT1mT1p T1pT1p T1pT1pT1p 2tV T8gtTmw 47V 2X 3uV 1cU1c 1cV U1 V D8af",
    "D2xy D89z 2V U1 V U1 V U1 V D8bg D8al D8bj D8bi V U1 2V U1 6V D8pe D8p3 2D8cf U1 V U1 V U1 V",
    "U1 V U1 V U1 V U1 V U1 V U1 V U1 V U1 V U1 V U1 V U1 V U1 V U1 V U1 V U1 V U1 V U1 V U1 V U1 V",
    "U1 V U1 V U1 V U1 V U1 V U1 V U1 V U1 V U1 V U1 V U1 V U1 V U1 V U1 V U1 V U1 V U1 V U1 V U1 V",
    "U1 V U1 V U1 V U1 V U1 V U1 V U1 V U1 V U1 8V U1 V U1 4V U1 V 5X 19V X V 5X V 2X 1kV 7X De V",
    "eX oV 9X 7V X 7V X 7V X 7V X 7V X 7V X 7V X 7V X 3iV yX qV X 4V Uc32 2bV Um98 cX U64g U65j",
    "U65w U664 U66t U680 U686 U68p U69e U6ra U6sb U6sg U6t2 U6tl U6u5 U6vl U6w5 U6wf U70p U73a U741",
    "U745 U74y U756 U75w U768 U76w U78b U78s U79i U7uh U7wg U897 U89t U8a0 U8aa U8ar U8cu U8q2 U8rd",
    "U8uo U8va U8vs U8wd U8xu U8xw U97x U986 U98h U98t U9c0 U9c7 U9cb U9fj U9fs U9g4 U9gb U9hz U9if",
    "U9iw U9l3 Ua17 Ua2g Ua30 Uanj Uann Uapx Uaqc Uaqo Uar8 Uasa Uase Uazs Ub0f Ub1a Ubth Ubva Ubvw",
    "Ubxh Uby4 Ubyc Ubyi Ubzx Uc01 Uc0w Ucuu Ud78 Ud7j Ud7n Ud7q Ud7x Ud8e Ud8f Udan Udgm Udgq Udq4",
    "Udqd Udrq Udrw Uds4 Udsb Udut Uduz Ue1a Ue1g Ue2s Ue38 Ue4i Ueb2 Ueb8 Uebo Uekq Ueo7 Ueoc Uetd",
    "Uevr Uex0 Uf7h Ufb5 Ufr2 Ufrs Uftc Ufuq Ufwl Ufwv Ufx0 Ufxw Ufzz Ug08 Ug9t Ug9z Uga7 Ugaf Ugau",
    "Ugb8 Ugbb Ugdh Ugdk Ugdp Uh4x Uh5q Uhiq Uhj1 Uhjn Uhrh Uhrt Uhtr Uhv0 Uiaq Uib4 Uibi Uicg Uidg",
    "Uiiy Uij9 Uil3 Uiry Uiss Uiyk Uiz4 Uiz8 Uj5b Ujae Ujdu Ujdz Uje3 Uk40 Uk48 Uk8j Ukcs Ukcu Uke4",
    "Ukh0 Ukhc Ukhf Ukhl Ukka Ukl7 Uklc Uklp Ukqb Ukrp Ukrs Ukwu Ukww Ukxe Ul4d Ul5o Ul5u Ul7r Ul80",
    "Ul82 Ul8b Ul94 Ulk2 Ulv5 Ulve Ulwf Ulx0 Ulx7 Ulxg Ulxj Ulym Ulyp Ulz5 Ulz9 Ulzl Um0b Um0p Um0w",
    "Um2i Um2w Um2z 16X D9gg V D9g4 1fV D10 V U6x5 2U6x7 5V X 2eV 2X 2V TwT9ll TwT9lm 2V T9l4T9l6",
    "2nV T9mbT9mw 5X 17V X 2D6cx D689 D6cy 2D689 3D6d0 6D68a D6cm 3D6d7 D6cj aD6d8 lD6b2 I 2D6dt",
    "2D68w D68t D68s D68o D68l D68k D6du D68i D68h 2D6dw D6dv 2D6du D6dr D6dq 5D6dp D6dn D6dk D6db",
    "D6d5 D6d1 2D68h 3D6ct 2D6bn D6bl 2D6bd D6bc D6b3 D6b1 X 2V U5m6 U5q1 U5md U7d2 U5mc U5na U5mb",
    "Udcp U5of U5mm U5lx U7t8 U7f6 U5qz 1yV aX gV T14T3cwT15 T14T3cyT15 T14T3czT15 T14T3d1T15",
    "T14T3d2T15 T14T3d3T15 T14T3d5T15 T14T3d7T15 T14T3d8T15 T14T3daT15 T14T3dbT15 T14T3dcT15",
    "T14T3ddT15 T14T3deT15 T14Txz4T15 T14TyvsT15 T14Tzc4T15 T14T108sT15 T14T10p4T15 T14T115gT15",
    "T14T1224T15 T14T12ysT15 T14T13f4T15 T14T14bsT15 T14T14s4T15 T14T158gT15 T14T15osT15",
    "T14T1654T15 T14T13p8T15 T14T1350T13icT15 T14T1350T16f8T15 X T14TfeoT15 T14TfikT15 T14TfexT15",
    "T14Th5nT15 T14TfisT15 T14Tg31T15 T14TferT15 T14Tg2zT15 T14Tfh9T15 T14Tgg1T15 T14TkcoT15",
    "T14Tm7fT15 T14TldgT15 T14TkdkT15 T14TssxT15 T14Th7jT15 T14Tk4lT15 T14TkkqT15 T14TkcpT15",
    "T14Tny6T15 T14TglpT15 T14Tmm1T15 T14Trs1T15 T14Tnz1T15 T14Tgc4T15 T14TfkzT15 T14TgosT15",
    "T14Ti1yT15 T14TnhfT15 T14TfltT15 T14Trt3T15 T14TggkT15 T14TnzhT15 T14Tfm9T15 T14TpnuT15",
    "T14Tpo3T15 U6x7 U8qf Ua4h Ueh4 8V T34T38T2t T1eT1d T1eT1e T1eT1f T1eT1g T1eT1h T1eT1i T1eT1j",
    "T1eT1k T1eT1l T1fT1c T1fT1d T1fT1e T1fT1f T1fT1g T1fT1h D6lc 2D6lb 3D6la D6l9 2D6l8 5D6l7 Uo0i",
    "Uox5 Updg Uqa3 Uqqe Ur6p Us3c Uszz Utga Uucx Uut8 Uv9j Uvpu Uw65 T14c8Ty5c T13p8T13dk Ut9u V",
    "U5fk U5jf U5fr U76g U5jk U63s U5fh U63o U5hx U6go Uada Uc80 Ube0 Uae3 Uitf U780 Ua51 Ual5 Uad3",
    "Udyj U6m1 Ucmc Uhsb Udza U6cc Ue2n Ud5p U7o8 Uij1 U619 U6he Ubih Uk11 U5m8 U647 Ub7k U5eu U5fs",
    "U5et U8jj U6kr U6fm U831 U81n Udh3 U5lg Uhsp U6g5 U7l8 T1fT1i T1fT1j T1fT1k T1fT1l T1gT1c",
    "T1gT1d T1gT1e T1gT1f T1gT1g T1gT1h T1gT1i T1gT1j T1gT1k T1gT1l T1hT1c T1dTkco T1eTkco T1fTkco",
    "T1gTkco T1hTkco T1iTkco T1jTkco T1kTkco T1lTkco T1dT1cTkco T1dT1dTkco T1dT1eTkco T2wT2v",
    "T2tT36T2v T2tT3a T30T38T2s Dfi Dfh Dfg Dff 2Dfe Dfd Dfc Dfb Dfa Df9 Df8 Df7 Df6 Df5 Df4 Df3",
    "Df1 Df0 Dez 6Dey Dew Deu Des Deq 5Deo Den Dem 6Del 4Dek Tfl0Tgp8 T9luT9n5T9ocT9mw",
    "T9luT9nvT9n9T9lt T9luT9o3T9neT9lu T9luT9ocT9nv T9lwT9mzT9o3T9m8 T9lwT9o3T9mp T9lyT9m1T9o3",
    "T9m0T9mhT9m7T9ocT9mx T9m0T9ocT9m3T9oc T9m2T9o3T9mh T9m2T9ocT9nk T9m3T9lwT9nu T9m3T9ntT9mrT9mw",
    "T9m3T9nxT9nuT9oc T9m4T9nxT9o3 T9m4T9o3T9ni T9m6T9m4 T9m6T9mzT9oc T9m5T9npT9nuT9oc",
    "T9m6T9nvT9moT9oc T9m5T9nx T9m5T9nxT9m8T9ntT9nk T9m5T9nxT9nlT9ocT9mwT9nv T9m5T9nxT9nzT9mrT9mw",
    "T9m8T9ntT9nk T9m8T9ntT9nkT9mwT9o3 T9m7T9nvT9mkT9lwT9nx T9m7T9nxT9ocT9n1 T9m9T9ocT9mh",
    "T9mbT9nvT9my T9mbT9ocT9nh T9mdT9lwT9m7T9nv T9mdT9o3T9mpT9ocT9nk T9mfT9nuT9o3T9m8 T9mjT9o3T9mp",
    "T9mjT9o3T9mw T9moT9ocT9mh T9mvT9mf T9mxT9nv T9mwT9o3 T9myT9n2 T9n2T9mrT9mw T9n3T9lwT9ms",
    "T9n5T9ocT9mjT9o3T9mw T9n5T9ocT9ms T9n4T9ocT9nwT9nv T9n8T9luT9mhT9mwT9nv T9n8T9m7T9nv T9n8T9mb",
    "T9n7T9nv T9n9T9ltT9ntT9mrT9mx T9n9T9lvT9ocT9mw T9naT9mrT9mfT9lzT9nv T9n9T9ntT9o3",
    "T9ncT9m7T9mnT9ocT9nv T9neT9ml T9neT9mzT9n6 T9ncT9nvT9ms T9neT9o3T9mh T9neT9ocT9mg T9ndT9ocT9mn",
    "T9nhT9lwT9o3T9mw T9ngT9nvT9mw T9nfT9o3 T9nhT9o3T9mx T9nfT9ocT9nv T9nfT9ocT9o3 T9niT9lwT9m7T9nx",
    "T9niT9lwT9nv T9niT9mrT9n3 T9niT9nvT9m7 T9niT9o3T9mfT9nrT9o3 T9njT9m7T9nxT9o3 T9njT9nu",
    "T9njT9nuT9n4T9ocT9nv T9nlT9m4 T9nlT9m4T9mwT9o3 T9nlT9ocT9mwT9nv T9noT9ocT9mx T9noT9ocT9nv",
    "T9nqT9luT9o3 T9nuT9mrT9mwT9nv T9nuT9nt T9nvT9n8T9oc T9nvT9ocT9naT9nv T9nwT9nk",
    "T9nwT9o3T9mwT9maT9o3 T9nzT9mrT9mw T1cTm9l T1dTm9l T1eTm9l T1fTm9l T1gTm9l T1hTm9l T1iTm9l",
    "T1jTm9l T1kTm9l T1lTm9l T1dT1cTm9l T1dT1dTm9l T1dT1eTm9l T1dT1fTm9l T1dT1gTm9l T1dT1hTm9l",
    "T1dT1iTm9l T1dT1jTm9l T1dT1kTm9l T1dT1lTm9l T1eT1cTm9l T1eT1dTm9l T1eT1eTm9l T1eT1fTm9l",
    "T1eT1gTm9l T2wT34T2p T2sT2p T2pT39 T2qT2pT36 T33T3a T34T2r T2sT31 T2sT31T1e T2sT31T1f T2xT39",
    "TinnTjdc Tk6lTgp8 ThlzTl7n Tk5qTlh7 TkkqTirzTfmiTny6 T34T2p T32T2p TqkT2p T31T2p T2zT2p T2zT2q",
    "T31T2q T2vT2q T2rT2pT30 T2zT2rT2pT30 T34T2u T32T2u TqkT2u TqkT2v T31T2v T2zT2v T2wT3e",
    "T2zT2wT3e T31T2wT3e T2vT2wT3e T38T2wT3e TqkT30 T31T30 T2sT30 T2zT30 T2uT31 T32T31 TqkT31",
    "T31T31 T2rT31 T2zT31 T31T31T1e T2rT31T1e T31T1e T2zT31T1e T31T31T1f T2rT31T1f T31T1f T2zT31T1f",
    "T31T6qdT37 T31T6qdT37T1e T34T2p T2zT34T2p T31T34T2p T2vT34T2p T36T2pT2s T36T2pT2sT6qdT37",
    "T36T2pT2sT6qdT37T1e T34T37 T32T37 TqkT37 T31T37 T34T3a T32T3a TqkT3a T31T3a T2zT3a T31T3a",
    "T34T3b T32T3b TqkT3b T31T3b T2zT3b T31T3b T2zTqx T31Tqx X T2qT35 T2rT2r T2rT2s T2rT6qdT2zT2v X",
    "T2sT2q T2vT3d T2wT2p T2wT34 T2xT32 T2zT2z T2zT31 T2zT38 T30T31 T30T32 T30T33T2v T30T3c T31T2q",
    "T31T2xT30 T31T33T30 T34T2w X T34T34T31 T34T36 T37T36 T37T3a T3bT2q T3aT6qdT31 T2pT6qdT31",
    "T1dTk4l T1eTk4l T1fTk4l T1gTk4l T1hTk4l T1iTk4l T1jTk4l T1kTk4l T1lTk4l T1dT1cTk4l T1dT1dTk4l",
    "T1dT1eTk4l T1dT1fTk4l T1dT1gTk4l T1dT1hTk4l T1dT1iTk4l T1dT1jTk4l T1dT1kTk4l T1dT1lTk4l",
    "T1eT1cTk4l T1eT1dTk4l T1eT1eTk4l T1eT1fTk4l T1eT1gTk4l T1eT1hTk4l T1eT1iTk4l T1eT1jTk4l",
    "T1eT1kTk4l T1eT1lTk4l T1fT1cTk4l T1fT1dTk4l T2vT2pT30 m8dV 3X 1jV 9X 9oV kX U1 V U1 V U1 V U1",
    "V U1 V U1 V U1 V U1 V U1 V U1 V U1 V U1 V U1 V U1 V U1 V U1 V U1 V U1 V U1 V U1 V U1 V U1 V U1",
    "jV U1 V U1 V U1 V U1 V U1 V U1 V U1 V U1 V U1 V U1 V U1 V U1 V U1 V U1 V Dw2a Dw29 2iV 8X yV",
    "U1 V U1 V U1 V U1 V U1 V U1 V U1 3V U1 V U1 V U1 V U1 V U1 V U1 V U1 V U1 V U1 V U1 V U1 V U1",
    "V U1 V U1 V U1 V U1 V U1 V U1 V U1 V U1 V U1 V U1 V U1 V U1 V U1 V U1 V U1 V U1 V U1 V U1 V U1",
    "V D1 8V U1 V U1 V Dr9g U1 V U1 V U1 V U1 V U1 4V U1 V Dwmg 2V U1 V U1 3V U1 V U1 V U1 V U1 V",
    "U1 V U1 V U1 V U1 V U1 V U1 V Dwn8 Dwnj Dwnf Dwn5 Dwn8 V Dwlu Dwmi Dwlx Ups U1 V U1 V U1 V U1",
    "V U1 V U1 V U1 V U1 V D1c Dwn7 Draw U1 V U1 V Dwo7 U1 V U1 V U1 V U1 V U1 V U1 V U1 V U1 V",
    "Dwu9 kX Dx32 Dx3j Dx3h Dx37 U1 2V Dwy9 Dwx2 1fV 3X aV 6X 1kV 8X 1yV 8X cV 6X 38V bX uV 3X 26V",
    "X bV 4X xV X 1jV 9X eV 2X aV 2X 2vV oX sV aX 6V 2X 6V 2X 6V 9X 7V X 7V X 18V Dtx D12 Dxdf Dd",
    "9V Dxcs 2V 4X 28Dtzk 1aV 2X aV 6X 8mcV cX nV 4X 1dV 6isX Dlh4 Dsul Dkzc Dldn Drar Dxqr Dwm9",
    "2Tvj0 Dvjs Dke1 Dwas Dvk4 Dtuf Dpt1 Do0a Dmoh Dmdz Dm56 Dkn8 Ds9e Drne Dqwt Dqbd Dn2z Dkhb",
    "Disp Dxp5 Dwpz Ds2h Dqo3 Dmpe Dhz6 Dus1 Dr3r Dms6 Dm2o Dtp8 Dnke Dmbs Duhq Dsuq Drls Dqi7 Dkm6",
    "Dxif Dx2v Dwup Dtbg Ds4e Dqoy Dpqk Dnxv Dmr3 Dmoq Dl6w Djd2 Diiy Di0w Dpf3 Dp8d Dof1 Dn79 Dk6z",
    "Dhxd Dlt7 Dvoj Dugv Doo4 Dnuv Dqn8 Dpdp Dlfq Djf6 Dvoy Duzt Dsah Drjn Drb3 Doio Dobd Djk6 Dww0",
    "Dnuw Dx2w Dx3d Dp4q Doex Dn6v Djj8 Dlp6 Dtqk Dsbe Dlsv Dxt1 Dv3s Dua6 Dqfu Dq2a Dwuk Dpd5 Dxie",
    "Dud9 Dxui Drrw Dt81 Dojs Dwq0 Dvta Dprg Dn51 Dlvp Drzq Dkw1 Dru2 Dtpx Dnf3 Dtlh Dq35 Dxqh Dx73",
    "Dx4g Dsmx Dolw Dnil Dluz Dkhb Dwwa Dwn2 Dvm6 Duja Dt6m Dr5y Dpcr Djq1 Disd Dhyp Dhx7 Dwz3 Dszp",
    "Ds2d Dkyz Dumy Du0v Dtxs Dtfb Drcf Dqx6 Dqa3 Dp8r Dof6 Dnxk Dl0y Dn1n Dktz Dk7l Dx39 Dwze Dwkh",
    "Dr13 Dmam Dlx3 Dul5 Ducu Dtnt Ds1j Dors Dqia Dxqc Dw4w Dv5v Dusx Duc0 Dqgr Dqbp Do45 Dnze Dkfx",
    "Dji4 Djfv Dja4 Dxm2 Dpag Dkjn Djk0 Du6w Dxtg Dxcx Dv66 Dv3y Dt9h Dse5 Dquq Dpz3 Dn2e Dksn Dhtj",
    "Dt31 Djo8 Dx1a Dswd Dst2 Drrd Drhr Dqf7 Dq5w Dpk3 Don3 Dj8y Dx9g Dtyc Djmj Dxih Duyk Drn0 Dl2l",
    "Duh9 Du51 Dssj Dqj8 Djme Dx4k Dwr3 Dv3u Dt71 Dsyb Dsoq Drum Dqfy Dq2r Do6l Dmc8 Dmbr Dkkd Djk8",
    "Dwx8 Drhu Dwr4 Dqvy Dqc7 Dmwm Djm6 Dihn Di1g Dswt Droq Dnpq Dp4c Dp20 Dorr Dqpm Dr4y Dlus Dxtp",
    "Dngo Dx51 Dx6h Duor Dtv3 Doq5 Dvb3 Drtz Dt3m Dl3g Dmgs Djp8 Dm7z Duns Dxcc Dwgd 2V Dvxy V Dt5q",
    "2V Dx87 Dqng Dpxp Dpgc Dpff Dpf9 Dpe4 Djie Dorj Do69 V Dmxa V Dlyi 2V Dkx9 Dkrt 3V Dj7f Dj73",
    "Dj5w Di9l Dksw Djnc Dxoi Dxfu Dxd1 Dx2i Dx1s Dwys Dwih Dwfl Dwcw Dvzt Dvwy Dv6f Dv66 Ducp Du6u",
    "Du5t Du32 Dtf6 Dtb4 Dt6a Dssf Drta Dros Drhh Dr16 Dqvy Dqi0 Dpmi Dphq Dphg Dphi Dphb Dph6 Dph0",
    "2Dpfp Dpas Dp90 Dp06 Dokj Dojz Doig Doa0 Do5y Dnsf 2Tprt Dnbc Dmds Dma3 Dm01 Dlyi Dln5 Dllp",
    "Dl2o Dkz3 Djnp Djfu Dje7 Dueu U1sw2 Dnrp 2X Dy16 Dxbw Dxe2 Dxrn Dxf3 Dxdh Dx4f Dx31 Dwkb Dwmc",
    "Dwkh Dwih Dw0y Dvyi Dvui Dvu3 Dvmm Dvh5 Dur4 Duqy Dumz Dul4 Ducu Du9l Dubk Du7v Du96 Du55 Du3c",
    "Dts9 Dtpu Dtod Dth6 Dt99 Dt4r Dt4o Dt32 Ds9o Ds7w Drx2 Drlp Drm6 Drjs Drct Dr3i Dpva Dqy1 Dquo",
    "Dqra Dqi8 Dqe4 Dqco Dq6f Dq6e Dq1o Dq18 Dq0k Dpy7 Dpyi Dpnj Dpa3 Dp2l Doxf Dor8 Don0 Dodv Do8d",
    "Dnkx Dngl Dmrg Dmet Dmcx Dmci Dm4a Dm2q Dm40 Dm2j Dm2n Dm35 Dm12 Dlyu Dlo9 Dl8q Dl01 Dkrv Dklr",
    "Djt6 Djqc Djn6 Djji Djij Dji8 Djgx Diwr Di0i U1njv U1njo U1ptw D11rp D10vv D10uz U1vuc U1xx6",
    "U24n0 Di39 Di17 12X T2uT2u T2uT2x T2uT30 T2uT2uT2x T2uT2uT30 2T37T38 cX T12sT12u T12sT12d",
    "T12sT12j T132T12u T12sT12l 5X T15lT14k V T16aT14n D1cfy D1cgh 2D1cgf 3D1cg9 D1cfz D1cfy D1dku",
    "T161T14x T161T14y T161T14sT14x T161T14sT14y T15cT14n T15cT14o T15cT14s T15dT14s T15eT14s",
    "T15fT14s T15gT14s T15hT14s T15iT14s X T15kT14s T15lT14s T15mT14s T15nT14s T15oT14s X T15qT14s",
    "X T15sT14s T15tT14s X T15vT14s T15wT14s X T15yT14s T15zT14s T160T14s T161T14s T162T14s",
    "T15hT14p T15dT14v T15nT14v T15wT14v T15cT15o 2T19t 4T1a3 4T1a6 4T1a8 4T1a2 4T1a7 4T1a1 4T1b8",
    "4T1ba 4T1ac 4T1ab 4T1ae 4T1af 2T1al 2T1ak 2T1am 2T1ag 2T1aw 2T1ap 4T1bd 4T1bj 4T1bn 4T1bl",
    "2T1bu 4T1bv 2T1c0 4T1c1 4T1by 2T1ci 2T1cj xV 4T1bh 2T1c7 2T1c6 2T1c8 T1c7T19w 2T1cb 2T1c5",
    "2T1c9 4T1cg 2T18p 2T17qT17r 2T17qT1cl 2T17qT18o 2T17qT1c7 2T17qT1c6 2T17qT1c8 3T17qT1cg",
    "3T17qT18p 4T1cc T17qT17w T17qT17x T17qT18l T17qT18p T17qT18q T17sT17w T17sT17x T17sT17y",
    "T17sT18l T17sT18p T17sT18q T17uT17w T17uT17x T17uT17y T17uT18l T17uT18p T17uT18q T17vT17w",
    "T17vT18l T17vT18p T17vT18q T17wT17x T17wT18l T17xT17w T17xT18l T17yT17w T17yT17x T17yT18l",
    "T183T17w T183T17x T183T17y T183T18l T185T17x T185T18l T186T17w T186T17x T186T17y T186T18l",
    "T187T17x T187T18l T188T18l T189T17w T189T18l T18aT17w T18aT18l T18hT17w T18hT17x T18hT17y",
    "T18hT18l T18hT18p T18hT18q T18iT17x T18iT18l T18iT18p T18iT18q T18jT17r T18jT17w T18jT17x",
    "T18jT17y T18jT18k T18jT18l T18jT18p T18jT18q T18kT17w T18kT17x T18kT17y T18kT18l T18kT18p",
    "T18kT18q T18lT17w T18lT17x T18lT17y T18lT18l T18lT18p T18lT18q T18mT17w T18mT17x T18mT17y",
    "T18mT18l T18mT18p T18mT18q T18nT17w T18nT18l T18nT18p T18nT18q T18qT17w T18qT17x T18qT17y",
    "T18qT18l T18qT18p T18qT18q T180T19s T181T19s T18pT19s TwT18sT18x TwT18tT18x TwT18uT18x",
    "TwT18vT18x TwT18wT18x TwT18xT19s T17qT181 T17qT182 T17qT18l T17qT18m T17qT18p T17qT18q",
    "T17sT181 T17sT182 T17sT18l T17sT18m T17sT18p T17sT18q T17uT181 T17uT182 T17uT18l T17uT18m",
    "T17uT18p T17uT18q T17vT181 T17vT182 T17vT18l T17vT18m T17vT18p T17vT18q T18hT18p T18hT18q",
    "T18iT18p T18iT18q T18jT17r T18jT18k T18jT18l T18jT18p T18jT18q T18kT18l T18kT18p T18kT18q",
    "T18lT17r T18lT18l T18mT181 T18mT182 T18mT18l T18mT18m T18mT18p T18mT18q T18pT19s T18qT181",
    "T18qT182 T18qT18l T18qT18m T18qT18p T18qT18q T17qT17w T17qT17x T17qT17y T17qT18l T17qT18n",
    "T17sT17w T17sT17x T17sT17y T17sT18l T17sT18n T17uT17w T17uT17x T17uT17y T17uT18l T17uT18n",
    "T17vT18l T17wT17x T17wT18l T17xT17w T17xT18l T17yT17w T17yT18l T183T17w T183T17x T183T17y",
    "T183T18l T185T17x T185T17y T185T18l T186T17w T186T17x T186T17y T186T18l T187T17x T188T18l",
    "T189T17w T189T18l T18aT17w T18aT18l T18hT17w T18hT17x T18hT17y T18hT18l T18iT17x T18iT18l",
    "T18jT17w T18jT17x T18jT17y T18jT18k T18jT18l T18kT17w T18kT17x T18kT17y T18kT18l T18kT18n",
    "T18lT17w T18lT17x T18lT17y T18lT18l T18mT17w T18mT17x T18mT17y T18mT18l T18mT18n T18nT17w",
    "T18nT18l T18nT19s T18qT17w T18qT17x T18qT17y T18qT18l T18qT18n T17qT18l T17qT18n T17sT18l",
    "T17sT18n T17uT18l T17uT18n T17vT18l T17vT18n T183T18l T183T18n T184T18l T184T18n T18jT18k",
    "T18jT18l T18kT18l T18mT18l T18mT18n T18qT18l T18qT18n T18gT18uT18x T18gT18vT18x T18gT18wT18x",
    "T187T18p T187T18q T189T18p T189T18q T18aT18p T18aT18q T183T18p T183T18q T184T18p T184T18q",
    "T17xT18p T17xT18q T17wT18p T17wT18q T17yT18p T17yT18q T185T18p T185T18q T186T18p T186T18q",
    "T184T17w T184T17x T184T17y T184T18l T184T181 T183T181 T185T181 T186T181 T187T18p T187T18q",
    "T189T18p T189T18q T18aT18p T18aT18q T183T18p T183T18q T184T18p T184T18q T17xT18p T17xT18q",
    "T17wT18p T17wT18q T17yT18p T17yT18q T185T18p T185T18q T186T18p T186T18q T184T17w T184T17x",
    "T184T17y T184T18l T184T181 T183T181 T185T181 T186T181 T184T17w T184T17x T184T17y T184T18l",
    "T183T18n T184T18n T187T18l T183T17w T183T17x T183T17y T184T17w T184T17x T184T17y T187T18l",
    "T188T18l 2T17rT18r iV T17uT17wT18l 2T17uT17xT17w T17uT17xT18l T17uT17yT18l T17uT18lT17w",
    "T17uT18lT17x T17uT18lT17y 2T17wT18lT17x T17xT18lT18q T17xT18lT18p T183T17xT17w T183T17wT17x",
    "T183T17wT18p 2T183T18lT17x T183T18lT17w 2T183T18lT18l 2T185T17xT17x T185T18lT18l 2T184T17xT18l",
    "T184T17wT18q 2T184T18lT17y 2T184T18lT18l T186T17xT18p 2T186T17yT18l 2T187T18lT17x T187T18lT18l",
    "T187T18lT18q T189T17wT18l 2T189T18lT18l T189T18lT18p T18aT18lT18l T18aT18lT18q T18aT18lT18p",
    "2T18hT17yT18l T18iT18lT17x T18iT18lT18l T18kT17xT18l T18kT17xT18q T18kT17xT18p 2T18kT17wT17w",
    "2T18kT17yT18l 2T18kT18lT17x T18lT17xT17w T18lT17xT18l T18lT17xT18q T18lT17wT17x T18lT17wT18l",
    "T18lT17yT17w T18lT17yT18l 2V T18lT17wT17y T18nT18lT17w T18nT18lT18l T18mT17xT18l T18mT17xT18p",
    "2T18mT17wT18l T18mT17wT18p T18mT18lT18q T18mT18lT18p 2T18qT18lT18l T17sT17yT18q T17uT17wT18q",
    "T17uT17wT18p T17uT17yT18q T17uT17yT18p T17uT18lT18q T17uT18lT18p T17wT18lT18q T17wT17xT18p",
    "T17wT18lT18p T183T17yT18p T185T17xT18q T184T17xT18q T186T17xT18q T18kT17wT18q T18kT18lT18q",
    "T18qT17xT18q T18qT17wT18q T18qT18lT18q T18lT18lT18q T18iT18lT18q T18mT17xT18q T18iT18lT17x",
    "T18kT17xT18l T189T18lT18q T18jT18lT18q T18mT17wT17x T18lT17yT18q T18kT17wT18l T18jT18lT18l",
    "T18kT17wT18l T18mT17wT17x T17wT17xT18q T17xT17wT18q T18lT17wT18q T18hT18lT18q T17sT17xT18q",
    "T18jT18lT18l T189T17wT18l T185T18lT18l T183T17yT18q T18mT17wT18q 8V wX T185T18kT1ci",
    "T18iT18kT1ci T17rT18kT18kT18n T17rT18jT17sT181 T18lT17xT18lT17z T185T18kT189T18l",
    "T181T183T18oT18k T189T18kT18qT18n T18oT183T18kT18l T185T18kT18p",
    "T185T18kT18pTwT17rT18kT18kT18nTwT189T18kT18qT18nTwT18oT183T18kT18l",
    "T17wT18kTwT17wT18kT17rT18kT18n T181T1ccT17rT18k 3V gI D1e5g D14pc X 2D1e55 D1e5w D1e53 2D14ox",
    "7X gV X D17vh D17vj 2T2n 2D1e6l D1e4c D1e4b 2D14px 2D14q3 2D14qb 2D14qf 4D14qd 2V D1e5o D1e5n",
    "4TwTlh 3T2n D1e78 D14r4 2X D1e6x D1e6z D1e6v D1e7q D17wk 2D1e7l D1e5c D1e5b 2D14qx D1e7w D1e7u",
    "2D1e7r D1e7q D1e7c D1e7b D1e7d X D1e6k 2D1e85 D1e7f 4X TwT18r T18gT18r TwT18s V TwT18t X",
    "TwT18u T18gT18u TwT18v T18gT18v TwT18w T18gT18w TwT18x T18gT18x TwT18y T18gT18y 2D1d27 2D1d28",
    "2D1d29 2D1d2a 2D1d2b 3T17q 2T17r 4T17s 2T17t 4T17u 4T17v 4T17w 4T17x 4T17y 2T17z 2T180 2T181",
    "2T182 4T183 4T184 4T185 4T186 4T187 4T188 4T189 4T18a 4T18h 4T18i 4T18j 4T18k 4T18l 4T18m",
    "4T18n 2T18o 2T18p 4T18q 2T18kT17m 2T18kT17n 2T18kT17p 2T18kT17r 2X I X wD1ecg qD1ebk 10D1ecg",
    "2D168q D1eer 2D14ye D14yr D14ru D14s4 D14ue D14ud D14uc D14ub D14ua D14sp D14so D14sn D14to",
    "D14s4 D14un D14um D14ul D14uk 2D14uj D14ui D14uh D14ug D14uf D14ue D14ud D14uc D14ub D14ua",
    "D14u9 D14u8 D14u6 D14u5 D14u4 6D14u3 D14u1 D14tz D14tx D14tv 5D14tt D14ts D14tr 6D14tq D14tp",
    "D14tm 2D14w5 I 2D1b4x D1b09 D1b4y 2D1b09 3D1b50 6D1b0a D1b4m 3D1b57 D1b4j aD1b58 3X 6D1b35 2X",
    "6D1b37 2X 6D1b39 2X 3D1b3b 3X 2D1ef2 D1eeu TwTlg D1ef2 D1ef4 D183h X D178m 4D17x5 D174d D1737",
    "hX cV X qV X jV X 2V X fV 2X eV yX 3fV 5X 3V 4X 19V 3X 2gV X dV 3X V 1bX 1aV 3mX tV 3X 1dV fX",
    "sV 4X 10V 9X uV 5X 17V 5X uV X 11V 4X eV 16X 14U14 3aV 2X aV 6X 10U14 4X 10V 4X 14V 8X 1gV bX",
    "V bU13 X fU13 X 7U13 X 2U13 X bV X fV X 7V X 2V 3X 1gV cX 8nV 9X mV aX 8V oX V 2D1fht D1fvh",
    "D1fjf D1fle X D1fj8 Di76 D1fj8 D1fja 2D1flh D1a7w D1fli D1fld D1fjb D1fl9 D1flc D1flf D1fjt",
    "D1fu6 D1fju D1flc D1fkk 2D1fjj D1flb U16js Diz3 D1flc U16jq D1fki U16jp D1fvu 2D1fl9 D1fzo",
    "D1fl8 U16jl 2D1fl7 D1fl6 D1fk3 D1fk6 Di86 D1fk7 D1fl3 D17b3 X D1fkz 2D1fki D1fkt 3D1fqu U16j5",
    "U16jo 1xX 6V 2X V X 18V X 2V 3X V 2X nV X 20V 8X 9V 1cX jV X 2V 5X xV 3X rV 5X rV 12X 1kV 4X",
    "kV 2X 1eV X 2V 5X 8V X 3V X tV 2X 3V 4X aV 7X 9V 7X 1sV wX 13V 4X cV 9X 1iV 3X tV 2X rV 5X qV",
    "7X 4V cX 7V 28X 21V 1jX 1fU1s dX 1fV 7X 1aV 8X aV 6X gV mUw 3X tV 8X 2V 5sX vV X 16V X 3V 2X",
    "2V gX 6V 8X 9V xX 1aV 8X 16V mX qV 12X sV kX nV 9X 26V 4X 10V 9X 1qV X 5V dX pV 7X aV 6X 1hV X",
    "iV 8X 13V 9X 2oV X kV bX iV X 1bV 1qX 7V X V X 4V X fV X bV 6X 1nV 5X aV 6X 4V X 8V 2X 2V 2X",
    "mV X 7V X 2V X 5V X aV 2X 2V 2X 3V 2X V 6X V 5X 7V 2X 7V 3X 5V bX aV X V 2X V X 12V X aV X V",
    "2X V X 4V X aV X 2V 8X 2V tX 2kV X 5V uX 20V 8X aV 4mX 1iV 2X 12V yX 1xV bX aV 6X dV jX 1mV 6X",
    "aV 6X kV sX rV 2X fV 4X nV 55X 1oV 2sX wUw 1fV cX 8V 2X V 2X 8V X 2V X uV X 2V 2X cV 9X aV 1yX",
    "8V 2X 1aV 2X bV rX 20V 8X 2bV dX 21V 7X aV 2eX 8V 2gX yV eX aV 6X 9V X 19V X eV aX tV 3X wV 2X",
    "mV X eV 21X 7V X 2V X 18V 3X V X 2V X 9V 8X aV 6X 6V X 2V X 11V X 2V X 6V 7X aV 6X 18V 4X aV",
    "6uX pV 7X hV X 15V 3X tV 2dX V fX 1eV dX pnV 2uX 33V X 5V bX 5gV 218X 2rV dX tsV gX mV aX 32zV",
    "5X g7V 5a1X 1mV 1c6X ftV 7X vV X aV 4X 29V X aV 6X uV 2X 6V aX 1yV aX aV X 7V X lV 5X jV c0X",
    "1mV 5iX wUw 1nV 5X pUr 2X pV 18X 23V 4X 1lV 7X hV 1sX 5V bX 7V 9X 5p2V 15X wV 2pX 37V 6ppX 4V",
    "X 7V X 2V X 83V fX V tX 3V 2X V eX 4V 8X b0V 1s4X 2zV 5X dV 3X 9V 7X aV 2X 4V 4I 318X 5yV",
    "qD2iyd aD2j0g 3V 3X c4V 6X nV fX hV fX 1aV 2X nV 9X 38V 1oX 6uV aX 13V 2X 1hV T2jx3T2jxh",
    "T2jx4T2jxh T2jx4T2jxhT2jxq T2jx4T2jxhT2jxr T2jx4T2jxhT2jxs T2jx4T2jxhT2jxt T2jx4T2jxhT2jxu eV",
    "8I 1sV T2jztT2jxh T2jzuT2jxh T2jztT2jxhT2jxq T2jzuT2jxhT2jxq T2jztT2jxhT2jxr T2jzuT2jxhT2jxr",
    "16V lX 1yV 3eX kV cX kV cX 2fV 9X pV 3rX qD2kdb qD2ke1 qD2ker 7D2kfh X iD2kfh qD2kg7 qD2kgx",
    "D2khn X 2D2khn 2X D2khn 2X 2D2khn 2X 4D2khn X 8D2khn 4D2kid X D2kid X 7D2kid X bD2kid qD2kj3",
    "qD2kjt 2D2kkj X 4D2kkj 2X 8D2kkj X 7D2kkj X qD2kl9 2D2klz X 4D2klz X 5D2klz X D2klz 3X 7D2klz",
    "X qD2kmp qD2knf qD2ko5 qD2kov qD2kpl qD2kqb qD2kr1 qD2krr qD2ksh qD2kt7 qD2ktx qD2kun qD2kvd",
    "D2kqb D2kj2 2X hD2k8n D2k8x 7D2k8n D2e9m hD2k9d 2Tqr 6D2k9d D2eah D2k9z D2k9x D2k9w D2k9l",
    "D2k9r D2k9t hD2ka9 D2kaj 7D2ka9 D2eb8 hD2kaz 2Tqr 6D2kaz D2ec3 D2kbl D2kbj D2kbi D2kb7 D2kbd",
    "D2kbf hD2kbv D2kc5 7D2kbv D2ecu hD2kcl 2Tqr 6D2kcl D2edp D2kd7 D2kd5 D2kd4 D2kct D2kcz D2kd1",
    "hD2kdh D2kdr 7D2kdh D2eeg hD2ke7 2Tqr 6D2ke7 D2efb D2ket D2ker D2keq D2kef D2kel D2ken hD2kf3",
    "D2kfd 7D2kf3 D2eg2 hD2kft 2Tqr 6D2kft D2egx D2kgf D2kgd D2kgc D2kg1 D2kg7 D2kg9 2Trh 2X aD2l5q",
    "aD2l60 aD2l6a aD2l6k aD2l6u i4V fX 5V X fV uoX vV 6X 6V 5xX 7V X hV 2X 7V X 2V X 5V 5X 9D2m0w",
    "3D2m0v bD2m0u D2m0s 2D2m0r D1pz5 D2lwy D2m0m D2m0l D2lwl D2ly8 D2lxd 9D2m1t 2D2m1s 2D2m1q",
    "D2m1p 6D2m1o 2D2m1n D2lzq D2m1e D2m1g D2m17 D2lz4 D1q1n D2lz0 xX V 34X 19V 3X eV 2X aV 4X 2V",
    "8wX vV hX 1mV 5X V cwX 16V 5yX 17V 4X V 5cX vV X mV 8X 2V 68X 7V X 4V X 2V X fV X 5hV 2X gV",
    "15X yUy 16V 4X aV 4X 2V ltX 1wV 24X 1pV 5eX 2D2od5 D2od2 D2od0 X D2ocd D2od0 D2od6 D2ocx D2ocf",
    "4D2ocn D2od7 D2od2 D2ocv D2od8 D2ocw D2ode D2odc 2D2odn D2odl D2odk D2odf D2ode D2odd D2oby",
    "D2o9v D2oal D2oc0 X D2oe1 D2ody X D2od9 2X D2oe2 X D2odb 4D2odj D2oe3 D2ody D2odr D2oe4 D2ods",
    "X D2oe8 2D2oej D2oeh X D2oeb X D2oe9 6X D2oeu 4X D2oey X D2oe7 X D2oef X D2oef D2oez D2oeu X",
    "D2of0 D2oeo X D2of4 2X D2ofd X D2of7 X D2of5 X D2obn X D2ods X D2oft D2ofq X D2of1 2X D2ofu",
    "D2ofl D2of3 D2ofb X 2D2ofb D2ofv D2ofq D2ofj D2ofw D2ofk X D2og0 2D2ogb D2og9 X D2og3 D2og2",
    "D2og1 D2oem X D2od9 X 2D2ogp D2ogm D2ogk 2D2ofx D2ogk D2ogq D2ogh D2ofz X 3D2og7 D2ogr D2ogm",
    "D2ogf D2ogs D2ogg D2ogy D2ogw 2D2oh7 D2oh5 D2oh4 D2ogz D2ogy D2ogx 5X D2ohl D2ohi D2ohg X",
    "D2ogt D2ohg D2ohm D2ohd D2ogv X 3D2oh3 D2ohn D2ohi D2ohb D2oho D2ohc D2ohu D2ohs 2D2oi3 D2oi1",
    "D2oi0 D2ohv D2ohu D2oht 1gX 2V 7iX 18V 4X 2sV cX fV 2X fV X fV X 11V bX T1cT18 T1dT18 T1eT18",
    "T1fT18 T1gT18 T1hT18 T1iT18 T1jT18 T1kT18 T1lT18 5V T14T2pT15 T14T2qT15 T14T2rT15 T14T2sT15",
    "T14T2tT15 T14T2uT15 T14T2vT15 T14T2wT15 T14T2xT15 T14T2yT15 T14T2zT15 T14T30T15 T14T31T15",
    "T14T32T15 T14T33T15 T14T34T15 T14T35T15 T14T36T15 T14T37T15 T14T38T15 T14T39T15 T14T3aT15",
    "T14T3bT15 T14T3cT15 T14T3dT15 T14T3eT15 T9hwT37T9hx D2q4o D2q4a T2rT2s T3bT3e V qD2q4v T2wT3a",
    "T31T3a T37T2s T37T37 T34T34T3a T3bT2r qV T31T2r T31T2s T31T36 zV T2sT2y tV 1kX qV T9krT9jf",
    "T9mbT9mb D2gr1 dX D26yt D28ca D29ty D2gr0 D2avc D28sb D1z5f D28ry D2aus D267t D241l D26bm",
    "D2a4v D27ip D2aa9 D26b3 D2a6b D21nj D239f D1ym2 D28tw D29rg D24gi D26xe D26s3 D2azt D2azl",
    "D1xwh D27uu D2ayo D29tn D26ug D1ygw D26zi D22ep D227t D29t8 D24l1 D2625 D2627 D239h D2a4n",
    "D29hg D1xpq 4X T9hwTkdoT9hx T9hwTfexT9hx T9hwTfikT9hx T9hwTi2xT9hx T9hwTm9lT9hx T9hwTjf7T9hx",
    "T9hwTnh3T9hx T9hwTgd9T9hx T9hwTk0nT9hx 7X D27jt D29uq eX 6V 4aX rdV 3X hV 3X dV 3X 62V 6X cV",
    "4X V fX cV 4X 1kV 8X aV 6X 14V 8X uV 2X cV 4X 2V eX 9V 13X 9kV 8X eV 2X dV 3X bV 3X 1lV X V 4X",
    "gV 2X cV 4X aV 7X 43V X 2kV aD2sao V slX wyoV wX 3dqV 2X 4geV 2X 5rlV fX haV 1wiX D3qo3 D3qo9",
    "D3qo1 D1crl D3qg4 D3qdz D3qdn D3qbp D3q8e D3q7k D3q5f D3q64 D3vqm D1brn D3q2p D3q2j D3q24",
    "D3q1m D1bzq D3vq2 D3q25 D3q14 D1byj D3q0w D3q0k D3qkt D3q0e D3q06 Dk71 D3pyg D3py3 D3vpc D3pwl",
    "D3pwb D3pv4 D3pv0 D3vnz D3psu D3pst D3ps3 D3pri 2D3pr8 D3pqs D3ppf D3pp8 D3pp0 D3poc D3po3",
    "3Tghr D1b0o D3jyd D3pm4 D3plk D1as5 D3pla D3pl5 D3pkl D3pge D3pj9 D3piu D3phz D3pge D3pe3",
    "D3pde D3pbk D3pb5 2Tgw4 D3p9q D3p99 D3p92 D3p8o D3oz9 D3p6u D3oza D3p4t D3p3v D3pzd D3omb",
    "D3ouc D3otb D3osn D3owa D3oro D3orq D3ooc D18xh D3omg D3omc D3oly D3olf D3ol8 D3ojh D18l4",
    "D18jb D3ofq D3oeg D3oe5 D3ogd D3ocg D3vcp D3vcc D3o81 2Ti0u D17z8 D3o2y D3o2e D3o20 D3o1p",
    "D17q1 D3o1f D3o19 D3ndt D3o0j D3v91 D3nyv D3nyi D3nw9 D3nxp D176f D3nsp D176f D3nrk D3nro",
    "D3nr8 2D3nog D3v4k D3nnr D3nml D3nm1 D3nku D3v3a D16h2 D3v2m D3niz D3nix D3niv D3nic Dgsd",
    "D3ngy 2T3035 D3gk2 2Tisi D3v0v D1333 Dtry D3nef D3ne7 D3v08 D3ncy D3nbk D3nbb D3nae D3n6n",
    "D3uxz D3uyu D3n67 D15g0 D3n4u D3n1a D3n17 D3n16 D3n19 D3n00 D3mzh D3myi D3myx D3myn D3mxd",
    "D3mwu D3mwr D3mw2 D3mvs D3mtz D3mro D3mqq D3mnb D14mk D3mnw D3mpq D3mmr D3mm1 D3mjd D14gd",
    "D3mhp D3mkb D3ml4 D3us4 D3mfu D3mfa D3meg D3mfj D3uqj D3m9l D3m8t D13nk D3m5k D3lxw D3m2s",
    "D3ulx D3m0u D3umg D3unh D3q68 D3q66 D3lxw D3m0p D3gvd D3svy D3lxd D3lxa D3lx5 D3lvh D3lvt",
    "D12xm D3ul1 D3lr9 D3luj D3lov D3lnh D12t2 D3lna D3lqe D3ljm D3uiy D3lie D3lfq D3lds D3l8j",
    "D12dl D3l76 D3ufq D3l5a D11zd D3l3x D3uec D3l35 D3l1x 2D3l17 D11m2 D17fx D11j3 D3kx8 D116n",
    "D3ku5 D3kts D3kwn D3krt D3kqq D3kp6 D3kqp D3kpm D3kp8 D3kow D1148 D3kr7 D3kk9 D3kij D3u8n",
    "D3kg0 D3kg5 D10sc D3klx D3kbl D10oi D10n7 D3k98 D3k62 D3k6u D3k6y D3u68 D3k5p D3k4b D3k4i",
    "D3k31 D1c6u D3jyv D103e D3jwi Dzuc D3jso D3jsc D3jrm Dzdn D3jqc D3jps Dz5d Dyz7 D3jji D3jj2",
    "D3tz2 D3jie 2Tce0 D3jdz D3jdf D3jcv D3jcc D3jag D3tw8 D3j80 Dy67 D3j7c Dy3p D3j60 D16l6 D3j1m",
    "Dxi2 Dxhg Dxdl D3tqa D3tpz D3ivg Dx8u Dx8w Dx7u Dx75 2D3iuf D3iug D3ita D3tow D3irj D3tol",
    "D3tme Dwmo D3im8 D3ikj D3iis D3tke Dw8c D3if1 Dw56 Dw40 D3idj D3ib0 D3tih D3i8p D3i8g D3i8c",
    "Dvkw 2T3b1j D3i41 D3tcu Dv5i D3hy4 D3hy2 D3tbx Duzp D3hqs D3t8n D3hq8 D3hqe D3hpm Dued D3hmx",
    "D3t64 D3hk7 D3hil D3hgr D3t4t Dtvu Dtv0 D3t3v Dtr0 D3h8c Dto9 D3h7n D3h4v D3h4l Dtcx Dtax",
    "D3h25 Dt7a D3h1r D134x D3t0s D3h00 D3gxs D3szd D3gw7 D3oi9 Dstc Dssz D133q D133i D3gqy D3gqw",
    "D3e27 D3swz D3gn2 D3gn9 D3gms D3q3j D3gma D3gm9 D3gm0 D3gkw Ds4b D3gkz D3gjg D3ghj D3gfi D3gjd",
    "D3gf4 D3gdz D3gaw D3gi5 D3gev D3geu D3gef Drxq Drp6 Drtd D3ssc D3g6v D3g6u D3g5w Dqg1 D3g3s",
    "Drcx D3sr5 D3sr2 Dr9b Dr1b D3sqv D3fxf D3fx4 D3fwu D3fwt D3fv2 D3fw0 D3fsb D3ftk D3fpe D3fro",
    "D3fpu D3fp4 D3so8 D3fmn D3fls D3snd D3fj7 D3fj5 Dpy6 D3ffz D3fft D3slv D3ff3 D3w27 Dpi5 Dpd2",
    "D3si7 D3shz D3f3j D3f1f D3ex3 D3erh Doq3 D3ep5 D3eok D3em3 D3ejk Do89 D1brp D3ehb D3ehr D3egc",
    "D1blr D3ea2 D3e7b Dmxa Dmwk D3dxq D3dv6 D3dub Dmnr D3du3 D3dm7 2D3dht D3dke D3d9u D3d93 Dlpv",
    "D3cyr D3ryy D3cxl Dlfe D3rws D3cq8 D3o02 D3cnm Dkoh Dkil D3rt6 D3rsz D3cii Dk4x D3rre Dk13",
    "2Tu17 D3cgn Djt7 D3cbk D3ro0 D3c9n D3c66 D3c5g D3c3t D3rju Diqh D3bw8 D3bnv D3bin D3rcv D3rc1",
    "D3bfs Dhmq D3rbt Dhl9 Dhdx Dhab D3b6i D3r9c D3b4u D3b4q D3b4k D3b4b D3b45 D3b35 Dgm5 15uX 3t7V",
    "5X 6juV f62uX 6oI 47bkX"]

def table : Unicode.Table Mapping := .ofLines read mappingRuns

def find (c : Char) : Mapping := (table.find? c.toNat).getD refused

def image? (c : Char) : Option (List Char) :=
  match find c with
  | kept => some [c]
  | dropped => some []
  | refused => none
  | moved true n => some [Char.ofNat (c.toNat + n)]
  | moved false n => some [Char.ofNat (c.toNat - n)]
  | replaced s => some s

def keeps (c : Char) : Bool := find c = kept

end Mapping

end DeepLink.Url
