import DeepLink.Unicode.Table

namespace DeepLink.Text

def hiddenRuns : List String :=
  -- runs of hidden (H) and shown (S) characters
  ["wH 2nS yH cS H giS 34H 8S 2H 6S 4H 7S H S H kS H 68S 7H 4mS H 12S 2H 1eS 2H 3S 1aH S H S 2H S",
    "2H S 9H rS 4H 6S hH aS bH S H 1aS lH gS H 2tS 8H S 6H 2S 2H S 4H wS 2H S H uS tH 2hS bH S eH",
    "17S 9H 7S 3H oS 4H S 9H S 3H S 7H fS H pS 5H S H bS 5H wS gH 16S 1lH 1jS H S H 4S 8H 4S H 3S",
    "7H aS 2H tS H 2S H 8S 2H 2S 2H mS H 7S H S 3H 4S 3H S H 2S 6H 2S 2H 2S H S dH 2S H 3S 4H oS 5H",
    "S H 6S 4H 2S 2H mS H 7S H 2S H 2S H 2S 4H 3S oH 4S H S 7H aS 2H 3S H S cH S H 9S H 3S H mS H",
    "7S H 2S H 5S 3H 4S 8H S H 2S 3H S fH 2S 4H cS 7H S 8H 2S H 8S 2H 2S 2H mS H 7S H 2S H 5S 3H S",
    "2H S 6H 2S 2H 2S fH 2S H 3S 4H iS bH S H 6S 3H 3S H 4S 3H 2S H S H 2S 3H 2S 3H 3S 3H cS 5H S H",
    "2S 3H 3S H 3S 3H S lH lS 6H 3S H 8S H 3S H nS H gS 3H S 3H 4S jH 3S H 2S 2H 2S 4H aS 7H aS H",
    "bS H 3S H nS H aS H 5S 3H 2S 2H S H 2S nH 3S H 2S 4H aS H 3S eH bS H 3S H 15S 2H S H 2S 5H 3S",
    "H 3S H 2S 4H 3S H aS 4H qS 2H 2S H iS 3H oS H 9S H S 2H 7S 9H 2S 6H 7S 7H aS 2H 3S cH 1cS H 2S",
    "bH 8S 8H dS 11H 2S H S H 5S H oS H S H aS H 2S 9H S 2H 5S H S 9H aS 2H 4S wH oS 2H rS H S H S",
    "H eS H 10S iH S 5H S 2H 5S 1dH 8S H 6S H dS 11H 19S 4H S 6H S 2H 2S 2H pS 2H 4S 3H gS 4H dS H",
    "2S 2H 6S H fS H 14S H S 5H S 2H 3zS 2H 6gS H 4S 2H 7S H S H 4S 2H 15S H 4S 2H xS H 4S 2H 7S H",
    "S H 4S 2H fS H 1lS H 4S 2H 1vS 5H tS 3H qS 6H 2eS 2H 6S 2H hsS H sS 3H 2hS 7H iS dH jS 3H 2S",
    "9H iS eH dS H 3S fH 1gS 2H S 7H 8S H 2S bH 9S 3H aS 6H aS 6H bS 5H aS 6H 2hS 7H 5S 2H yS H S",
    "5H 1yS aH vS 4H 4S 2H 3S 4H 2S H 6S 7H S 3H 16S 2H 5S bH 18S 4H qS 6H bS 3H 1lS 2H 2S 3H 1kS H",
    "S 9H S H 2S 8H 6S dH aS 6H aS 6H eS 2eH 1cS aH 4S 3H 8S H tS 9H cS 2H wS 4H 2S 6H 1kS H S 2H",
    "3S H S dH 1cS 8H 2S 5H fS 3H 1qS 5H 17S 2H bS bH S dH S 7H 4S H 6S H 3S 2H S 5H 5cS 1sH 7qS 2H",
    "6S 2H 12S 2H 6S 2H 8S H S H S H S H vS 2H 1hS H fS H eS 2H 6S H jS 2H 3S H 9S hH oS 8H 1bS hH",
    "2S 2H rS H dS 3H yS 1qH 3wS 4H iiS mH bS lH 1ecS 2H ahS 3H 2S 5H 19S H S 5H S 2H 1kS 7H 2S fH",
    "nS 9H 7S H 7S H 7S H 7S H 7S H 7S H 7S H 7S xH 2mS yH qS H 2hS cH 5yS qH gS H 15S 6H gS H 2eS",
    "4H 2tS 5H 17S H 1fS H 16S H 2eS 9H 1cS H mlpS 3H 1jS 9H 9oS kH 1bS 4H S aH wS 2H 28S 2H 6S 8H",
    "65S kH hS H 3S H 4S H pS 2H 5S 4H aS 6H 1kS 8H 1wS aH cS oH dS H 12S 8H pS bH S cH uS 6H 1cS H",
    "2S 4H 2S 2H 2S H dS H bS 4H 7S H pS H 15S 6H 2S 2H 2S bH 3S H 8S H S 2H aS 2H wS H 1fS H S 3H",
    "2S 2H 5S 2H S H S oH hS 2H 8S bH 6S 2H 6S 2H 6S 9H 7S H 7S H 1oS 4H 39S H 2S H 4S 3H aS 6H",
    "8mcS cH nS 4H 1dS 6isH a6S 2H 2yS 12H 7S cH 5S 5H S H oS H 5S H S H 2S H 2S H i2S wH gS gH aS",
    "mH zS H jS H 4S 4H 5S H 3rS 4H 4fS H uS 3H 6S 2H 6S 2H 6S 2H 3S 3H 7S H 7S dH 2S 2H cS H qS H",
    "jS H 2S H fS 2H eS yH 3fS 5H 3S 4H 19S 3H 2gS H dS 3H S 1bH 19S 3nH tS 3H 1dS gH rS 4H 10S 9H",
    "uS 5H 12S aH uS H 11S 4H eS 16H 4eS 2H aS 6H 10S 4H 10S 4H 14S 8H 1gS bH cS H fS H 7S H 2S H",
    "bS H fS H 7S H 2S 3H 1gS cH 8nS 9H mS aH 8S oH 6S H 16S H 9S 1xH 6S 2H S H 18S H 2S 3H S 2H nS",
    "H 20S 8H 9S 1cH jS H 2S 5H xS 3H rS 5H rS 12H 1kS 4H kS 2H 1bS fH 4S H 3S H tS aH 9S 7H 9S 7H",
    "1sS wH 11S 6H cS 9H 1iS 3H tS 2H rS 5H qS 7H 4S cH 7S 28H 21S 1jH 1fS dH 1fS 7H 16S cH aS 6H",
    "12S 8H oS 8H 2S 5sH vS H 16S 3H S 2H 2S gH 6S 8H 9S 13H 14S 8H mS bH 9S mH iS 4H 4S 12H sS kH",
    "nS 9H S H 1iS fH 7S 4H uS H 2S 2H S cH 1dS 4H 2S 2H 2S H 4S eH pS 7H aS 9H 10S 5H S 9H iS 8H",
    "zS H 3S bH 1gS 9H S H 8S 4H 2S H gS H kS bH iS H sS 3H 2S 4H 6S H 2S 1rH 7S H S H 4S H fS H bS",
    "6H 1bS H 3S dH aS 8H 2S H 8S 2H 2S 2H mS H 7S H 2S H 5S 3H S H S H 4S 2H 2S 2H 2S 3H S cH 7S",
    "sH aS H S 2H S H 12S H S H 2S fH S H 2S 3H S H 3S H 2S 13H 1kS 8H 2S 3H S H lS H S H 3S uH 1cS",
    "H 2S 6H S H 2S H S 2H S 2H 4S 8H aS 4mH 1bS H 2S 6H 4S 2H S 2H rS 10H 1fS 8H 2S H S 2H 4S bH",
    "aS 6H dS jH 17S H S H 2S 8H 2S 6H aS 6H kS sH rS 3H S H 2S 4H S 9H nS 55H 1bS 9H S 2H S 2sH",
    "2bS cH 8S 2H S 2H 8S H 2S H oS H 5S H 2S 6H 4S H 3S 9H aS 1yH 8S 2H 16S 8H 4S H 4S rH S aH 14S",
    "6H 2S 4H 8S 9H S 6H 2S 3H 1aS dH S 2H 9S dH 21S 7H aS 2fH S 3H S H S 2gH yS eH aS 6H 9S H 12S",
    "eH S H 6S aH tS 3H wS pH S 7H S 2H S 23H 7S H 2S H 12S lH S 9H aS 6H 6S H 2S H 11S 4H 2S H S H",
    "S 7H aS 6H 18S 4H aS 6uH jS 2H 4S 9H fS H 10S 8H 2S 3H nS 2eH S fH 1eS dH pnS 2uH 33S H 5S bH",
    "5gS 218H 2rS dH tsS hH 6S pH 32zS 5H g7S 5a1H uS cH 3S 3H aS 1c6H ftS 7H vS H aS 4H 29S H aS",
    "6H uS 7H S aH 1cS 7H fS aH aS H 7S H lS 5H jS c0H 1mS 5iH 2jS 5H pS 2H pS 18H 23S 5H 1kS bH dS",
    "1sH 4S eH 5S 9H 5p2S 15H wS 2pH 37S 6ppH 4S H 7S H 2S H 83S fH S tH 3S 2H S eH 4S 8H b0S 1s4H",
    "2zS 5H dS 3H 9S 7H aS 2H S 2H S 31cH 71S 3H c4S 6H nS fH hS 2nH 38S 1oH 6uS aH 13S 2H 1oS 5H",
    "3S mH 2S 7H uS 4H 1pS lH 1uS 3H S 3eH kS cH kS cH 2fS 9H pS 3rH 2dS H 1zS H 2S 2H S 2H 2S 2H",
    "4S H cS H S H 7S H 1tS H 4S 2H 8S H 7S H sS H 4S H 5S H S 3H 7S H 9gS 2H 84S 2H fmS 1jH 4S 1eH",
    "8S H eS H 7S voH vS 6H 6S 79H 1qS 42H 19S aH 7S 2H aS 4H 2S 8wH uS iH 18S 4H aS 5H S cwH sS 4H",
    "aS 5yH uS 2H bS 4H S 5cH vS H 3S H 2S H 7S 2H 5S 9H 2S 68H 7S H 4S H 2S H fS H 5hS 2H 9S 1cH",
    "1wS 7H S 4H aS 4H 2S ltH 1wS 24H 1pS 5eH 4S H rS H 2S H S 2H S H aS H 4S H S H S 6H S 4H S H S",
    "H S H 3S H 2S H S 2H S H S H S H S H S H 2S H S 2H 4S H 7S H 4S H 4S H S H aS H hS 5H 3S H 5S",
    "H hS 1gH 2S 7iH 18S 4H 2sS cH fS 2H fS H fS H 11S aH 4uS 1kH tS dH 18S 4H 9S 7H 2S eH 6S 4aH",
    "rdS 3H hS 3H dS 3H 62S 6H cS 4H S fH cS 4H 1kS 8H aS 6H 14S 8H uS 2H cS 4H 2S eH 9S 13H 9kS 8H",
    "eS 2H dS 3H bS 3H 1lS H S 4H gS 2H cS 4H aS 7H 43S H 2vS slH wyoS wH 3dqS 2H 4geS 2H 5rlS fH",
    "haS 1wiH f2S 15uH 3t7S 5H 6juS jdl2H"]

def hidden : Unicode.Table Bool := .ofLines (· = ['H']) hiddenRuns

def isHidden (c : Char) : Bool := (hidden.find? c.toNat).getD true

end DeepLink.Text
