/-
# Word classes

The class of a word depends on the lexicon and on its neighbours in the same
clause: the class already found for the word before it, and what the lexicon
says about the word after it.  Classes are therefore found from left to right,
and a clause break hides the neighbours behind it.
-/
import Flowchart.Sentence.Lexicon
import Flowchart.Sentence.Token
import Flowchart.Text.Lowercase

namespace Flowchart

/-- The class of a word in its context. -/
inductive WordClass
  | determiner
  | preposition
  | conjunction
  | auxiliary
  | pronoun
  | relative
  | interjection
  | particle
  | adverb
  | verb
  | noun
  | adjective
  | number
deriving DecidableEq, Repr

/-- What the lexicon says about a word on its own. -/
inductive LexicalClass
  | closed (cls : Lexicon.ClosedClass)
  | number
  | lyAdverb
  | verbForm (form : Lexicon.VerbForm)
  /-- A word of no list; `adjectival` if it looks like an adjective. -/
  | unlisted (adjectival : Bool)
deriving DecidableEq, Repr

namespace LexicalClass

/-- A text with straight apostrophes. -/
def straight (t : Text) : Text :=
  t.replaceChar '’' ['\x27']

/-- The spelling under which a word is looked up: lower case, straight apostrophes. -/
def lookupForm (word : Text) : Text :=
  straight word.lower

/-- What the lexicon says about a word that is looked up as `form`.  A hyphen makes a word
adjectival. -/
def ofForm (form word : Text) : LexicalClass :=
  match Lexicon.closedClass? form with
  | some cls => closed cls
  | none =>
    if Lexicon.isNumber word then number
    else match Lexicon.verbForm? form with
      | some verb => verbForm verb
      | none =>
        if Lexicon.isLyAdverb form then lyAdverb
        else unlisted (form.elem '-' || Lexicon.hasAdjectiveEnding form)

/-- What the lexicon says about a word. -/
def ofWord (word : Text) : LexicalClass :=
  ofForm (lookupForm word) word

/-- Whether the word would read as a noun after an adjective. -/
def isNominal : LexicalClass → Bool
  | number | unlisted _ | verbForm .base | verbForm .thirdPerson => true
  | _ => false

/-- Whether the word looks like the finite verb of a clause. -/
def isFiniteVerb : LexicalClass → Bool
  | closed .auxiliary | verbForm .thirdPerson | verbForm .past => true
  | _ => false

end LexicalClass

namespace WordClass

/-- Nouns and numbers can be the head of a noun phrase. -/
def isHead : WordClass → Bool
  | noun | number => true
  | _ => false

/-- The classes with which a noun phrase can start. -/
def startsNounPhrase : WordClass → Bool
  | determiner | adjective | noun | number => true
  | _ => false

/-- The classes with which a noun phrase can go on. -/
def continuesNounPhrase : WordClass → Bool
  | adjective | noun | number => true
  | _ => false

/-- The classes with which a verb phrase can start. -/
def startsVerbPhrase : WordClass → Bool
  | auxiliary | verb => true
  | _ => false

/-- The classes with which a verb phrase can go on. -/
def continuesVerbPhrase : WordClass → Bool
  | auxiliary | verb | particle | adverb => true
  | _ => false

/-- A verb form read as a verb or as a noun.  At the start of a clause a base form
is an imperative, unless a finite verb follows. -/
def ofVerbForm (form : Lexicon.VerbForm) (previous : Option (WordClass × Text))
    (next : Option LexicalClass) : WordClass :=
  let finiteNext := next.any LexicalClass.isFiniteVerb
  match previous with
  | none => if form = .base && !finiteNext then verb else noun
  | some (cls, spelling) =>
    match cls with
    | determiner | adjective | verb | particle | interjection => noun
    | auxiliary | adverb => verb
    | preposition => if spelling = "to".toList && form = .base then verb else noun
    | noun | number => if form = .base && finiteNext then noun else verb
    | pronoun | relative | conjunction => verb

/-- The class of a listed word.  A particle needs a verb or a particle before it
and is a preposition otherwise. -/
def ofClosed (cls : Lexicon.ClosedClass) (previous : Option WordClass) : WordClass :=
  match cls with
  | .particle => if previous = some verb || previous = some particle then particle else preposition
  | .determiner => determiner
  | .preposition => preposition
  | .conjunction => conjunction
  | .auxiliary => auxiliary
  | .pronoun => pronoun
  | .relative => relative
  | .interjection => interjection
  | .adverb => adverb

/-- The class of a word of no list.  One that looks like an adjective is a noun
after a determiner or an adjective, if no nominal word follows. -/
def ofUnlisted (adjectival : Bool) (previous : Option WordClass) (next : Option LexicalClass) :
    WordClass :=
  if !adjectival then noun
  else if next.any LexicalClass.isNominal then adjective
  else if previous = some determiner || previous = some adjective then noun
  else adjective

/-- The class of a word between its neighbours; the word before it comes with its spelling. -/
def resolve (word : LexicalClass) (previous : Option (WordClass × Text))
    (next : Option LexicalClass) : WordClass :=
  match word with
  | .closed cls => ofClosed cls (previous.map Prod.fst)
  | .number => number
  | .lyAdverb => adverb
  | .verbForm form => ofVerbForm form previous next
  | .unlisted adjectival => ofUnlisted adjectival (previous.map Prod.fst) next

end WordClass

/-- A token together with its class, if it is a word. -/
structure Reading where
  token : Token
  wordClass : Option WordClass
deriving DecidableEq, Repr

namespace Reading

/-- What the lexicon says about the next word of the same clause. -/
def nextWord? : List Token → Option LexicalClass
  | [] => none
  | t :: ts =>
    match t.kind with
    | .word => some (.ofWord t.text)
    | .clauseBreak => none
    | _ => nextWord? ts

/-- The readings of the tokens that follow the word `previous` of the same clause. -/
def after (previous : Option (WordClass × Text)) : List Token → List Reading
  | [] => []
  | t :: ts =>
    match t.kind with
    | .word =>
      let cls := WordClass.resolve (.ofWord t.text) previous (nextWord? ts)
      ⟨t, some cls⟩ :: after (some (cls, LexicalClass.lookupForm t.text)) ts
    | .clauseBreak => ⟨t, none⟩ :: after none ts
    | _ => ⟨t, none⟩ :: after previous ts

/-- The readings of all tokens of a sentence. -/
def ofTokens (ts : List Token) : List Reading :=
  after none ts

/-- Whether the reading is a word whose class satisfies `p`. -/
def isWord (p : WordClass → Bool) (r : Reading) : Bool :=
  r.wordClass.any p

end Reading

end Flowchart
