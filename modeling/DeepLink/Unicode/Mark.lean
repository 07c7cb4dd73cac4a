import DeepLink.Unicode.Table

namespace DeepLink.Unicode

abbrev Mark := Option Nat

def Mark.read : List Char → Mark
  | 'M' :: s => some (Table.numeral s)
  | _ => none

def markRuns : List String :=
  -- marks (M, with their class) and other characters (N)
  ["lcN lM6e M6g 4M64 M6g M60 5M64 2M5m 4M64 2M5m bM64 5M1 4M64 3M6e 2M M6e 2M M6o M6e 3M64 3M6e",
    "2M64 M 3M6e 4M64 M6e M6g 2M64 M6e M6h 2M6i M6h 2M6i M6h dM6e 7nN 5M6e 2M 7bN M64 4M6e M64 3M6e",
    "M66 M64 6M6e 6M64 2M6e M64 2M6e M66 M6c M6e Ma Mb Mc Md Me Mf Mg Mh Mi 2Mj Mk Ml Mm N Mn N Mo",
    "Mp N M6e M64 N Mi 20N 8M6e Mu Mv Mw 1cN Mr Ms Mt Mu Mv Mw Mx My 2M6e 2M64 5M6e M64 2M6e M64 gN",
    "Mz 2tN 7M6e 2N 4M6e M64 M6e 2N 2M6e N M64 2M6e M64 zN M10 uN M6e M64 2M6e M64 2M6e 3M64 M6e",
    "2M64 M6e M64 3M6e M64 M6e M64 M6e M64 M6e M64 2M6e 2jN bM 1mN 7M6e M64 M6e 9N M64 oN 4M6e N",
    "9M6e N 3M6e N 5M6e 17N 3M64 1nN 2M6e 3M64 4M6e 16N 5M6e 5M64 eM6e N M64 2M6e M64 2M6e M64 3M6e",
    "3M64 Mr Ms Mt 3M6e M64 2M6e 2M64 5M6e 4M 1iN 2M M7 N fM M9 2M N M6e M64 2M6e 3M aN 2M tN 3M",
    "1kN M7 N 7M 2N 2M 2N 2M M9 9N M aN 2M qN M6e 2N 3M 1kN M7 N 5M 4N 2M 2N 2M M9 3N M uN 2M 3N M",
    "bN 3M 1kN M7 N 8M N 3M N 2M M9 kN 2M mN 6M N 3M 1kN M7 N 7M 2N 2M 2N 2M M9 7N 3M aN 2M uN M",
    "1nN 5M 3N 3M N 3M M9 9N M 14N 5M 1jN M7 N 7M N 3M N 3M M9 7N M2c M2j bN 2M tN 3M 1kN M7 N 7M N",
    "3M N 3M M9 7N 2M bN 2M fN M cN 4M 1jN 2M9 N 7M N 3M N 3M M9 9N M aN 2M tN 3M 1yN M9 4N 6M N M",
    "N 8M iN 2M 1pN M 2N 4M 2M2v M9 cN M 4M2z 3M 2qN M 2N 4M 2M3a M9 2M bN 4M3e 3M 21N 2M64 rN M64",
    "N M64 N M60 4N 2M 1dN M3l M3m M M3o 5M 4M3m 2M M3m M 2M6e M9 N 2M6e 5N bM N 10M 9N M64 2sN cM",
    "M7 M 2M9 4M nN 4M 4N 3M N 3M 2N 7M 3N 4M dN bM M64 N M aN 4M jjN 3M6e qaN 2M 2M9 sN 2M M9 tN",
    "2M uN 2M 1sN uM M9 M 9N M6e 19N 3M N M 39N 2M yN M6c 3aN cM 4N 9M M66 M6e M64 63N M6e M64 3M",
    "1lN aM N M9 kM 8M6e 2N M64 1cN 5M6e 6M64 2M6e M64 M 2M64 2M6e 2M64 5M6e M64 iM6e M64 2N 6M6e",
    "M64 4M6e M6i kN 5M 1bN M7 fM M9 12N M6e M64 7M6e cN 3M uN 9M 2M9 2M 1kN M7 bM 2M9 1cN jM M7",
    "48N 3M6e N M1 5M64 2M6e 4M64 M6e M 7M1 4N M64 6N M6e 2N M 2M6e 5iN 2M6e M64 7M6e M64 2M6e M6i",
    "M5y M64 M5m 11M6e M6g 2M6c M64 M62 M6e M6h M64 M6e M64 k0N 2M6e 2M1 4M6e 3M1 2M6e 4M M6e 3M",
    "2M1 M6e M64 M6e 2M1 4M64 M6e 2daN 3M6e 3xN M9 2oN wM6e feN M62 M6c M6g M66 2M68 2xN 2M8 n9wN",
    "M6e 3M N aM6e wN 2M6e 28N 2M6e 7kN M 3N M9 4N M nN 5M 4N M9 2bN 2M 1eN gM M9 M qN iM6e dN M",
    "12N 5M 3M64 pN cM M9 18N 4M 1bN M7 cM M9 10N M 1vN eM cN M 8N 2M 19N 3M 1eN M6e N 2M6e M64 2N",
    "2M6e 5N 2M6e N M6e 15N 5M 5N M M9 6kN 8M N M M9 fn4N Mq khN gM gN 7M6e 7M64 2M6e r1N M64 6aN",
    "M64 45N 5M6e 1aeN 3M N 2M 5N M M64 M M6e 14N M6e M1 M64 4N M9 4lN M6e M64 fxN 4M6e 1tN 5M6e",
    "8tN 2M6e 25N 2M64 M 3M64 1yN 2M64 3M6e M64 M6e 4M64 1dN M6e M64 M6e M64 3eN 3M 1hN eM M9 15N",
    "M9 2N 2M aN M9 3M 19N 9M M9 M7 7N M 1pN 3M6e 10N cM 2M9 gN 2M 18N M7 cN 3M 1cN dM M9 8N M M7",
    "2M N 2M 2kN 9M M9 M7 M 6N M 2N M 4dN aM M7 M9 lN 4M 1jN 2M7 N 7M 2N 2M 2N 2M M9 9N M aN 2M 2N",
    "7M6e 3N 5M6e 1vN 9M N M 2N M N 4M N 2M 3M9 N M eN 2M 2aN dM M9 3M M7 nN M6e 29N iM M9 M7 6jN",
    "7M 2N 7M M9 M7 rN 2M 2aN fM M9 M 2yN bM M9 M7 2tN eM M9 74N dM M9 M7 6tN 6M N 2M 2N 2M 2M9 N M",
    "N M M7 3xN 7M 2N 6M M9 3N M sN aM 14N M M9 5M N 4M 8N M9 9N bM 1aN fM M9 5iN 8M 5jN 8M N 7M M9",
    "2aN mM N eM 3eN 6M 3N M N 2M N 3M M7 M 2M9 N M 1uN 5M N 2M N 4M M9 9nN 4M 9N 2M N M 1cN 7M 3N",
    "3M 2M9 nN M 44lN M 6N fM 8ugN hM M9 1xcN 5M1 1nN 7M6e t4N M N 1jM 7N 4M 29N M bN 2M6 f57N M M1",
    "3mpN 1aM 2N nM f2N 2M60 3M1 3N M6a 5M60 8N 8M64 2N 5M6e 2M64 uN 4M6e 44N 3M6e 1izN 1jM 4N 1eM",
    "8N M eN M mN 5M N fM 11sN 7M6e N hM6e 2N 7M6e N 2M6e N 5M6e 2sN M6e 4gN 7M6e afN M6e 1pN 4M6e",
    "e4N 2M6g M64 M6e 72N M6e M64 6rN M6e 2N M6e 7N 2M6e 5N M6e d6N 7M64 31N 6M6e M7 gzhxN 6oM",
    "47bkN"]

def marks : Table Mark := .ofLines Mark.read markRuns

def mark? (c : Char) : Mark := (marks.find? c.toNat).join

def isMark (c : Char) : Bool := (mark? c).isSome

def combiningClass (c : Char) : Nat := (mark? c).getD 0

def isVirama (c : Char) : Bool := combiningClass c = 9

end DeepLink.Unicode
