/-!
# Words of generated names

A name begins with an adjective and a surname, joined by underscores.  No word holds an underscore itself.
-/

namespace RequestSamples.Names

/-- The first words of names. -/
def adjectives : List String := [
  "admiring", "agitated", "amazing", "angry", "awesome", "blissful", "bold", "brave", "busy", "charming",
  "clever", "compassionate", "competent", "confident", "cranky", "crazy", "dazzling", "determined",
  "distracted", "dreamy", "eager", "ecstatic", "elastic", "elated", "elegant", "epic", "exciting",
  "fervent", "festive", "flamboyant", "focused", "friendly", "frosty", "funny", "gallant", "gifted",
  "goofy", "gracious", "happy", "hardcore", "heuristic", "hopeful", "hungry", "infallible", "inspiring",
  "jolly", "jovial", "keen", "kind", "laughing", "loving", "lucid", "magical", "modest", "musing",
  "mystifying", "naughty", "nervous", "nice", "nifty", "nostalgic", "objective", "optimistic",
  "peaceful", "pedantic", "pensive", "practical", "priceless", "quirky", "quizzical", "relaxed",
  "reverent", "romantic", "sad", "serene", "sharp", "silly", "sleepy", "stoic", "strange", "stupefied",
  "suspicious", "sweet", "tender", "thirsty", "trusting", "upbeat", "vibrant", "vigilant", "vigorous",
  "wizardly", "wonderful", "xenodochial", "youthful", "zealous", "zen"]

/-- The second words of names. -/
def surnames : List String := [
  "agnesi", "albattani", "allen", "archimedes", "babbage", "banach", "bardeen", "bartik", "bell",
  "blackwell", "bohr", "booth", "borg", "bose", "brahmagupta", "brattain", "brown", "carson", "cerf",
  "chandrasekhar", "chaplygin", "clarke", "curie", "darwin", "dijkstra", "dirac", "easley", "edison",
  "einstein", "elion", "engelbart", "euclid", "euler", "faraday", "fermat", "fermi", "feynman",
  "franklin", "galileo", "gates", "goldberg", "goodall", "hamilton", "hawking", "heisenberg", "hellman",
  "hertz", "hodgkin", "hopper", "hypatia", "jackson", "jang", "jennings", "johnson", "kalam", "kapitsa",
  "keller", "kepler", "knuth", "kowalevski", "lamarr", "lamport", "leakey", "leavitt", "lovelace",
  "lumiere", "mahavira", "mayer", "mccarthy", "mcclintock", "meitner", "mendel", "merkle", "mirzakhani",
  "montalcini", "moore", "morse", "napier", "nash", "newton", "nightingale", "nobel", "noether", "noyce",
  "pare", "pascal", "pasteur", "payne", "perlman", "pike", "poincare", "ptolemy", "raman", "ramanujan",
  "ride", "ritchie", "rosalind", "sammet", "shannon", "shockley", "sinoussi", "snyder", "spence",
  "stonebraker", "swanson", "swartz", "tesla", "thompson", "torvalds", "turing", "varahamihira",
  "visvesvaraya", "volhard", "wescoff", "wilbur", "wiles", "williams", "wilson", "wing", "wozniak",
  "wright", "yalow", "yonath"]

theorem adjectives_length : adjectives.length = 96 := rfl

theorem surnames_length : surnames.length = 123 := rfl

end RequestSamples.Names
