import DeepLink.Unicode.Mark

namespace DeepLink.Unicode

structure Pair where
  base : Nat
  mark : Nat
  whole : Nat

def Pair.read? (word : List Char) : Option Pair :=
  match Text.split '+' word with
  | [base, rest] =>
    match Text.split '=' rest with
    | [mark, whole] => some ⟨Table.numeral base, Table.numeral mark, Table.numeral whole⟩
    | _ => none
  | _ => none

def pairWords : List String :=
  ["1o+mw=6su 1p+mw=6sg 1q+mw=6sv 2p+lc=68 2p+ld=69 2p+le=6a 2p+lf=6b 2p+lg=75 2p+li=77 2p+lj=fb",
    "2p+lk=6c 2p+ll=61v 2p+lm=6d 2p+lo=cu 2p+lr=e9 2p+lt=eb 2p+mb=61t 2p+md=5xd 2p+mg=79 2q+lj=5xf",
    "2q+mb=5xh 2q+mp=5xj 2r+ld=7b 2r+le=7d 2r+lj=7f 2r+lo=7h 2r+mf=6f 2s+lj=5xn 2s+lo=7j 2s+mb=5xp",
    "2s+mf=5xt 2s+ml=5xv 2s+mp=5xr 2t+lc=6g 2t+ld=6h 2t+le=6i 2t+lf=62l 2t+lg=7n 2t+li=7p 2t+lj=7r",
    "2t+lk=6j 2t+ll=62j 2t+lo=7v 2t+lr=ed 2t+lt=ef 2t+mb=62h 2t+mf=fd 2t+mg=7t 2t+ml=5y1 2t+mo=5y3",
    "2u+lj=5y7 2v+ld=dx 2v+le=7x 2v+lg=5y9 2v+li=7z 2v+lj=81 2v+lo=dj 2v+mf=83 2w+le=85 2w+lj=5yb",
    "2w+lk=5yf 2w+lo=f3 2w+mb=5yd 2w+mf=5yh 2w+mm=5yj 2w+mp=61i 2x+lc=6k 2x+ld=6l 2x+le=6m 2x+lf=89",
    "2x+lg=8b 2x+li=8d 2x+lk=6n 2x+ll=62x 2x+lo=cw 2x+lr=eh 2x+lt=ej 2x+mb=62z 2x+mg=8f 2x+mo=5yl",
    "2y+le=8l 2y+lo=ds 2z+ld=5yp 2z+lo=dl 2z+mb=5yr 2z+mf=8n 2z+mp=5yt 30+ld=8q 30+lo=8u 30+mb=5yv",
    "30+mf=8s 30+ml=5z1 30+mp=5yz 31+ld=5z3 31+lj=5z5 31+mb=5z7 32+lc=e1 32+ld=90 32+lf=6p",
    "32+lj=5z9 32+lo=94 32+mb=5zb 32+mf=92 32+ml=5zf 32+mp=5zd 33+lc=6q 33+ld=6r 33+le=6s 33+lf=6t",
    "33+lg=99 33+li=9b 33+lj=fj 33+lk=6u 33+ll=633 33+ln=9d 33+lo=cy 33+lr=el 33+lt=en 33+m3=bl",
    "33+mb=631 33+mg=dn 34+ld=5zp 34+lj=5zr 36+ld=9h 36+lj=5zt 36+lo=9l 36+lr=ep 36+lt=er 36+mb=5zv",
    "36+mf=9j 36+mp=5zz 37+ld=9n 37+le=9p 37+lj=601 37+lo=9t 37+mb=603 37+me=ex 37+mf=9r 38+lj=60b",
    "38+lk=61j 38+lo=9x 38+mb=60d 38+me=ez 38+mf=9v 38+ml=60h 38+mp=60f 39+lc=6x 39+ld=6y 39+le=6z",
    "39+lf=a1 39+lg=a3 39+li=a5 39+lk=70 39+ll=63r 39+lm=a7 39+ln=a9 39+lo=d0 39+lr=et 39+lt=ev",
    "39+m3=c0 39+mb=63p 39+mc=60j 39+mg=ab 39+ml=60n 39+mo=60l 3a+lf=60t 3a+mb=60v 3b+lc=60x",
    "3b+ld=60z 3b+le=ad 3b+lj=613 3b+lk=611 3b+lm=61k 3b+mb=615 3c+lj=617 3c+lk=619 3d+lc=643",
    "3d+ld=71 3d+le=af 3d+lf=649 3d+lg=fn 3d+lj=61b 3d+lk=73 3d+ll=647 3d+lm=61l 3d+mb=645 3e+ld=ai",
    "3e+le=61d 3e+lj=ak 3e+lo=am 3e+mb=61f 3e+mp=61h 6a+lc=61z 6a+ld=61x 6a+lf=623 6a+ll=621",
    "6c+lg=db 6d+ld=e3 6e+ld=e5 6e+lg=df 6f+ld=5xl 6i+lc=62p 6i+ld=62n 6i+lf=62t 6i+ll=62r",
    "6n+ld=5yn 6s+lc=637 6s+ld=635 6s+lf=63b 6s+ll=639 6t+ld=5zh 6t+lg=fh 6t+lk=5zj 6u+lg=ff",
    "6w+ld=e7 70+lc=d8 70+ld=d4 70+lg=d2 70+lo=d6 77+lc=629 77+ld=627 77+lf=62d 77+ll=62b 7n+lc=5xx",
    "7n+ld=5xz 99+lc=5zl 99+ld=5zn 9n+lj=605 9t+lj=607 a1+ld=60p a3+lk=60r bl+lc=63h bl+ld=63f",
    "bl+lf=63l bl+ll=63j bl+mb=63n c0+lc=63v c0+ld=63t c0+lf=63z c0+ll=63x c0+mb=641 dn+lg=dp",
    "fb+lg=dd fd+li=5y5 fj+lg=fl ia+lo=dr q9+lc=67k q9+ld=q4 q9+lg=69d q9+li=69c q9+lv=64g",
    "q9+lw=64h q9+n6=69i qd+lc=67m qd+ld=q5 qd+lv=64w qd+lw=64x qf+lc=67o qf+ld=q6 qf+lv=65c",
    "qf+lw=65d qf+n6=69y qh+lc=67q qh+ld=q7 qh+lg=6a9 qh+li=6a8 qh+lk=qy qh+lv=65s qh+lw=65t",
    "qh+n6=6ae qn+lc=67s qn+ld=r0 qn+lv=668 qn+lw=669 qp+lv=6as qp+lw=6at qt+lc=67u qt+ld=r1",
    "qt+lg=6ap qt+li=6ao qt+lk=qz qt+lv=66o qt+lw=66p qt+n6=6au qx+lc=67w qx+ld=r2 qx+lv=674",
    "qx+lw=675 qx+n6=6ba qy+lc=6aa qy+ld=pc qy+n6=6af qz+lc=6aq qz+ld=q8 qz+n6=6av ts+li=y9",
    "ts+lk=yb tv+ld=ur tx+lc=uo tx+li=yf tx+lk=up ty+li=xu ty+lk=yl tz+lk=yn u0+lc=v1 u0+lg=yr",
    "u0+li=u1 u0+lk=yt u2+ld=v0 u6+lk=yv ub+lg=z3 ub+li=v2 ub+lk=z5 ub+ln=z7 uf+lk=z9 uj+lk=zd",
    "ul+lk=z1 uu+lk=uv vp+lr=vr yh+lk=yj yx+lk=yz 17r+18z=17m 17r+190=17n 17r+191=17p 18o+190=17o",
    "18q+190=17q 1c1+190=1c2 1ci+190=1cj 1cl+190=1c0 1t4+1to=1t5 1tc+1to=1td 1tf+1to=1tg",
    "1xj+1xa=1xn 1xj+1xz=1xo 287+27y=28b 287+28m=288 287+28n=28c 2aa+2c7=2ac 2bq+2bi=2bu",
    "2bq+2c7=2bw 2br+2bi=2bv 2fa+2fq=2fc 2in+2j9=2io 2iu+2iq=2iy 2iu+2j9=2iv 2iu+2ja=2iw",
    "2iy+2j9=2iz 2me+2m6=2mi 2me+2mv=2mk 2mf+2m6=2mj 2qh+2q2=2qi 2qh+2q7=2qk 2qh+2qn=2qm",
    "2qk+2q2=2ql 36t+372=36u 5c5+5dh=5c6 5c7+5dh=5c8 5c9+5dh=5ca 5cb+5dh=5cc 5cd+5dh=5ce",
    "5ch+5dh=5ci 5dm+5dh=5dn 5do+5dh=5dp 5dq+5dh=5ds 5dr+5dh=5dt 5du+5dh=5dv 5yv+lg=5yx 5zv+lg=5zx",
    "603+lj=609 61t+le=625 61t+li=62f 62h+le=62v 631+le=63d 64g+lc=64i 64g+ld=64k 64g+n6=64m",
    "64h+lc=64j 64h+ld=64l 64h+n6=64n 64w+lc=64y 64w+ld=650 64x+lc=64z 64x+ld=651 65c+lc=65e",
    "65c+ld=65g 65c+n6=65i 65d+lc=65f 65d+ld=65h 65d+n6=65j 65s+lc=65u 65s+ld=65w 65s+n6=65y",
    "65t+lc=65v 65t+ld=65x 65t+n6=65z 668+lc=66a 668+ld=66c 669+lc=66b 669+ld=66d 66o+lc=66q",
    "66o+ld=66s 66o+n6=66u 66p+lc=66r 66p+ld=66t 66p+n6=66v 674+lc=676 674+ld=678 674+n6=67a",
    "675+lc=677 675+ld=679 675+n6=67b 6mo+mw=6my 6mq+mw=6mz 6ms+mw=6ni 6og+mw=6od 6oi+mw=6of",
    "6ok+mw=6oe 6pv+mw=6pw 6q0+mw=6q1 6q3+mw=6q4 6qr+mw=6qs 6qt+mw=6qu 6rg+mw=6rl 6rn+mw=6ro",
    "6rp+mw=6rr 6rs+mw=6rt 6rx+mw=6st 6sh+mw=6si 6sk+mw=6sw 6sl+mw=6sx 6sy+mw=6t0 6sz+mw=6t1",
    "6t2+mw=6t4 6t3+mw=6t5 6t6+mw=6tc 6t7+mw=6td 6t8+mw=6w0 6t9+mw=6w1 6te+mw=6tg 6tf+mw=6th",
    "6ti+mw=6tk 6tj+mw=6tl 6tt+mw=6w2 6tu+mw=6w3 6ua+mw=6uk 6ug+mw=6ul 6uh+mw=6um 6uj+mw=6un",
    "6uq+mw=6wa 6ur+mw=6wb 6us+mw=6wc 6ut+mw=6wd 9ja+9ll=9lg 9jf+9ll=9jg 9jh+9ll=9ji 9jj+9ll=9jk",
    "9jl+9ll=9jm 9jn+9ll=9jo 9jp+9ll=9jq 9jr+9ll=9js 9jt+9ll=9ju 9jv+9ll=9jw 9jx+9ll=9jy",
    "9jz+9ll=9k0 9k1+9ll=9k2 9k4+9ll=9k5 9k6+9ll=9k7 9k8+9ll=9k9 9kf+9ll=9kg 9kf+9lm=9kh",
    "9ki+9ll=9kj 9ki+9lm=9kk 9kl+9ll=9km 9kl+9lm=9kn 9ko+9ll=9kp 9ko+9lm=9kq 9kr+9ll=9ks",
    "9kr+9lm=9kt 9lp+9ll=9lq 9ly+9ll=9o4 9m3+9ll=9m4 9m5+9ll=9m6 9m7+9ll=9m8 9m9+9ll=9ma",
    "9mb+9ll=9mc 9md+9ll=9me 9mf+9ll=9mg 9mh+9ll=9mi 9mj+9ll=9mk 9ml+9ll=9mm 9mn+9ll=9mo",
    "9mp+9ll=9mq 9ms+9ll=9mt 9mu+9ll=9mv 9mw+9ll=9mx 9n3+9ll=9n4 9n3+9lm=9n5 9n6+9ll=9n7",
    "9n6+9lm=9n8 9n9+9ll=9na 9n9+9lm=9nb 9nc+9ll=9nd 9nc+9lm=9ne 9nf+9ll=9ng 9nf+9lm=9nh",
    "9nz+9ll=9o7 9o0+9ll=9o8 9o1+9ll=9o9 9o2+9ll=9oa 9od+9ll=9oe 1fpu+lj=1fpl 1fq2+lj=1fqc",
    "1huh+1hve=1hui 1huj+1hve=1huk 1hut+1hve=1huz 1hyp+1hyf=1hym 1hyq+1hyf=1hyn 1idj+1ida=1idn",
    "1idj+1idz=1ido 1if6+1ih5=1if7 1if8+1igr=1if9 1iff+1igy=1ifi 1ifk+1ih5=1ifl 1igy+1igo=1ih3",
    "1igy+1igy=1ih1 1igy+1ih5=1ih4 1int+1ink=1inw 1int+1inu=1inv 1int+1inx=1iny 1iuw+1iun=1iuy",
    "1iux+1iun=1iuz 1jjp+1jjk=1jjs 1xr2+1xr2=1xr5 1xr2+1xr3=1xr7 1xr2+1xr4=1xr9 1xr2+1xrd=1xr6",
    "1xr5+1xr3=1xra 1xr5+1xr4=1xrc 1xr6+1xr3=1xrb 1xrd+1xr3=1xr8 206b+206f=206h 206f+206f=206g",
    "206h+206f=206i"]

def pairs : List Pair := (Table.words pairWords).filterMap Pair.read?

def pairKey (base mark : Nat) : Nat := base * 0x110000 + mark

def wholes : Table Nat := ⟨(pairs.map fun p => (pairKey p.base p.mark, p.whole)).toArray⟩

def parts : Table Pair :=
  ⟨((pairs.map fun p => (p.whole, p)).mergeSort fun a b => a.1 ≤ b.1).toArray⟩

def syllable? (a b : Nat) : Option Nat :=
  if 0x1100 ≤ a ∧ a < 0x1113 ∧ 0x1161 ≤ b ∧ b < 0x1176 then
    some (0xAC00 + ((a - 0x1100) * 21 + (b - 0x1161)) * 28)
  else if 0xAC00 ≤ a ∧ a < 0xD7A4 ∧ (a - 0xAC00) % 28 = 0 ∧ 0x11A8 ≤ b ∧ b < 0x11C3 then
    some (a + (b - 0x11A7))
  else none

def join? (a b : Char) : Option Char :=
  ((syllable? a.toNat b.toNat).or (wholes.get? (pairKey a.toNat b.toNat))).map Char.ofNat

def separate : Nat → Char → List Char
  | 0, c => [c]
  | depth + 1, c =>
    match parts.get? c.toNat with
    | some p => separate depth (Char.ofNat p.base) ++ [Char.ofNat p.mark]
    | none => [c]

def arrange : List Char → List Char
  | [] => []
  | c :: s =>
    let marks := (c :: s).takeWhile (combiningClass · ≠ 0)
    if marks.isEmpty then c :: arrange s
    else
      marks.mergeSort (fun a b => combiningClass a ≤ combiningClass b) ++
        arrange (s.drop (marks.length - 1))
termination_by s => s.length

/-- Joins marks to a base. Those that do not join stay behind it, the last one first in `kept`; a mark of
no higher class than the last of them does not reach the base. -/
def recompose (base : Char) (kept : List Char) : List Char → List Char
  | [] => base :: kept.reverse
  | c :: s =>
    let reaches := kept.head?.all (combiningClass · < combiningClass c)
    match if reaches then join? base c else none with
    | some whole => recompose whole kept s
    | none =>
      if combiningClass c = 0 then base :: kept.reverse ++ recompose c [] s
      else recompose base (c :: kept) s

def compose (s : List Char) : List Char :=
  match arrange (s.flatMap (separate 3)) with
  | [] => []
  | c :: rest => recompose c [] rest

end DeepLink.Unicode
