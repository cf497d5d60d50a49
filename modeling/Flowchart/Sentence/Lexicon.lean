/-
# The lexicon

The closed word classes of English, a list of verbs in their base form, and the
inflections by which other forms of these verbs are recognised.  All questions
are asked of a word in lower case with straight apostrophes.
-/
import Flowchart.Text.Basic

namespace Flowchart

namespace Lexicon

/-- A word list given by its spellings. -/
def spelled (ws : List String) : List Text :=
  ws.map String.toList

/-! ## Word lists -/

/-- Articles, possessives and quantifiers. -/
def determiners : List Text :=
  spelled [
    "a", "an", "the", "this", "these", "those", "my", "your", "his", "her", "its", "our", "their",
    "some", "any", "each", "every", "all", "no", "another", "both", "either", "neither", "many",
    "few", "several", "much", "more", "most"]

/-- Prepositions. -/
def prepositions : List Text :=
  spelled [
    "of", "in", "on", "at", "to", "for", "with", "by", "from", "about", "into", "onto", "over",
    "under", "between", "through", "during", "before", "after", "above", "below", "across",
    "against", "along", "among", "around", "behind", "beside", "beyond", "inside", "outside",
    "toward", "towards", "upon", "via", "within", "without", "per", "except", "near", "since",
    "until"]

/-- Conjunctions, among them the comparison word `than`. -/
def conjunctions : List Text :=
  spelled [
    "and", "or", "but", "nor", "so", "yet", "if", "then", "because", "while", "although",
    "though", "unless", "than", "whether", "once"]

/-- Auxiliary verbs with their contracted negations. -/
def auxiliaries : List Text :=
  spelled [
    "is", "are", "was", "were", "be", "been", "being", "am", "has", "have", "had", "having", "do",
    "does", "did", "will", "would", "can", "could", "should", "shall", "may", "might", "must",
    "don't", "doesn't", "didn't", "can't", "won't", "isn't", "aren't", "wasn't", "weren't",
    "shouldn't", "couldn't", "wouldn't", "cannot"]

/-- Pronouns and question words. -/
def pronouns : List Text :=
  spelled [
    "i", "you", "he", "she", "it", "we", "they", "me", "him", "us", "them", "mine", "yours",
    "ours", "theirs", "myself", "itself", "themselves", "someone", "something", "everyone",
    "everything", "nothing", "anyone", "anything", "nobody", "everybody", "somebody", "what",
    "where", "when", "why", "how"]

/-- Relative pronouns. -/
def relatives : List Text :=
  spelled [
    "that", "which", "who", "whom", "whose"]

/-- Greetings and exclamations. -/
def interjections : List Text :=
  spelled [
    "hello", "hi", "hey", "goodbye", "bye", "thanks", "please", "yes", "ok", "okay", "wow", "oh",
    "ah", "oops", "hooray", "alas"]

/-- Words that complete a verb, as in `speed up`. -/
def particles : List Text :=
  spelled [
    "up", "out", "down", "off", "away", "back"]

/-- Adverbs without an ending that gives them away. -/
def plainAdverbs : List Text :=
  spelled [
    "not", "never", "also", "always", "often", "just"]

/-- Words in `-ly` that are no adverbs. -/
def lyNouns : List Text :=
  spelled [
    "family", "assembly", "supply", "reply", "apply", "anomaly", "ally", "rally", "italy",
    "belly", "jelly", "fly", "butterfly", "july", "only", "monopoly", "holy"]

/-- Endings that make a word look like an adjective. -/
def adjectiveEndings : List Text :=
  spelled [
    "al", "ous", "ive", "ful", "less", "able", "ible", "ic", "ish"]

/-- Verbs in their base form. -/
def verbs : List Text :=
  spelled [
    "accept", "access", "add", "allow", "analyze", "answer", "apply", "approve", "arrive", "ask",
    "assign", "attach", "authenticate", "become", "begin", "bring", "build", "buy", "calculate",
    "call", "cancel", "change", "check", "choose", "clean", "clear", "click", "close", "collect",
    "come", "compile", "complete", "compute", "configure", "confirm", "connect", "contain",
    "convert", "copy", "create", "delete", "deliver", "deploy", "describe", "design", "detect",
    "develop", "display", "download", "drive", "drop", "eat", "edit", "enable", "encrypt",
    "enter", "fail", "fetch", "fill", "filter", "find", "finish", "fix", "follow", "generate",
    "get", "give", "go", "grow", "handle", "help", "hold", "ignore", "implement", "import",
    "include", "install", "invoke", "join", "keep", "know", "launch", "lead", "learn", "leave",
    "like", "list", "load", "log", "login", "look", "lose", "love", "make", "manage", "measure",
    "meet", "merge", "move", "need", "notify", "open", "order", "own", "parse", "pay", "place",
    "play", "post", "prepare", "press", "print", "process", "produce", "provide", "publish",
    "pull", "purchase", "push", "put", "query", "read", "receive", "record", "reduce", "register",
    "reject", "release", "remove", "render", "reply", "report", "request", "require", "reset",
    "resolve", "respond", "restart", "retrieve", "return", "review", "run", "save", "say", "scan",
    "search", "see", "select", "sell", "send", "serve", "set", "ship", "show", "sign", "solve",
    "sort", "speak", "speed", "start", "stop", "store", "submit", "subscribe", "support", "take",
    "talk", "teach", "tell", "test", "think", "track", "transform", "trigger", "update", "upload",
    "use", "validate", "verify", "view", "visit", "wait", "want", "watch", "welcome", "work",
    "write"]

/-- Irregular past forms with their base forms. -/
def irregularPasts : List (Text × Text) :=
  [
    ("ate", "eat"), ("became", "become"), ("began", "begin"), ("bought", "buy"),
    ("brought", "bring"), ("built", "build"), ("came", "come"), ("chose", "choose"),
    ("drove", "drive"), ("found", "find"), ("gave", "give"), ("got", "get"), ("grew", "grow"),
    ("held", "hold"), ("kept", "keep"), ("knew", "know"), ("led", "lead"), ("left", "leave"),
    ("lost", "lose"), ("made", "make"), ("met", "meet"), ("paid", "pay"), ("ran", "run"),
    ("said", "say"), ("saw", "see"), ("sent", "send"), ("sold", "sell"), ("spoke", "speak"),
    ("taught", "teach"), ("thought", "think"), ("told", "tell"), ("took", "take"), ("went", "go"),
    ("wrote", "write")].map fun p => (p.1.toList, p.2.toList)

/-! ## Closed classes -/

/-- The word classes that are given by a list. -/
inductive ClosedClass
  | determiner
  | preposition
  | conjunction
  | auxiliary
  | pronoun
  | relative
  | interjection
  | particle
  | adverb
deriving DecidableEq, Repr

/-- The closed class of a word; the lists are asked in this order. -/
def closedClass? (w : Text) : Option ClosedClass :=
  if w ∈ relatives then some .relative
  else if w ∈ determiners then some .determiner
  else if w ∈ auxiliaries then some .auxiliary
  else if w ∈ pronouns then some .pronoun
  else if w ∈ particles then some .particle
  else if w ∈ prepositions then some .preposition
  else if w ∈ conjunctions then some .conjunction
  else if w ∈ interjections then some .interjection
  else if w ∈ plainAdverbs then some .adverb
  else none

/-! ## Verb forms -/

/-- The inflection of a verb. -/
inductive VerbForm
  | base
  | thirdPerson
  | past
  | progressive
deriving DecidableEq, Repr

/-- Whether a text is the base form of a known verb. -/
def isVerb (w : Text) : Bool :=
  w ∈ verbs

/-- The stem of a doubled final consonant: `stopp` gives `stop`. -/
def undoubled? (stem : Text) : Option Text :=
  match stem.reverse with
  | a :: b :: c :: r => if a = b then some (b :: c :: r).reverse else none
  | _ => none

/-- Whether `w` ends in `ending` and the stem before it satisfies `p`. -/
def stemSatisfies (w : Text) (ending : String) (p : Text → Bool) : Bool :=
  (Text.before? w ending.toList).any p

/-- The form of which verb a word is: base forms and irregular pasts first, then
the regular endings `-s`, `-ed` and `-ing` with their spelling rules. -/
def verbForm? (w : Text) : Option VerbForm :=
  if !w.all (·.toNat < 128) then none
  else if isVerb w then some .base
  else if irregularPasts.any fun p => p.1 = w && isVerb p.2 then some .past
  else if stemSatisfies w "ies" fun s => isVerb (s ++ ['y']) then some .thirdPerson
  else if stemSatisfies w "es" isVerb then some .thirdPerson
  else if stemSatisfies w "s" isVerb then some .thirdPerson
  else if stemSatisfies w "ied" fun s => isVerb (s ++ ['y']) then some .past
  else if stemSatisfies w "ed" fun s =>
      isVerb s || (undoubled? s).any isVerb || isVerb (s ++ ['e']) then some .past
  else if stemSatisfies w "ing" fun s =>
      isVerb s || isVerb (s ++ ['e']) || (undoubled? s).any isVerb then some .progressive
  else none

/-! ## Open words -/

/-- An adverb in `-ly` of at least five bytes that is neither a listed noun nor a verb. -/
def isLyAdverb (w : Text) : Bool :=
  w.byteLength > 4 && ['l', 'y'].isSuffixOf w && w ∉ lyNouns && (verbForm? w).isNone

/-- A word of at least five bytes with the ending of an adjective. -/
def hasAdjectiveEnding (w : Text) : Bool :=
  w.byteLength > 4 && adjectiveEndings.any (·.isSuffixOf w)

/-- A number: a digit, then digits, points, commas and low lines. -/
def isNumber (w : Text) : Bool :=
  (w.head?.any Char.isDigit) &&
    w.all fun c => c.isDigit || c = '.' || c = ',' || c = '_'

end Lexicon

end Flowchart
