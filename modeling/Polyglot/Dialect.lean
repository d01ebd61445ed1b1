/-! Keywords and the three dialects in which they are spelled. A dialect changes no more than the
spelling: each keyword has exactly one word in each dialect. -/
namespace Polyglot

inductive Keyword where
  | fnWord | letWord | trueWord | falseWord | ifWord | elseWord | elsifWord | returnWord
  | andWord | orWord | forWord | whileWord
  deriving DecidableEq, Repr

def Keyword.all : List Keyword :=
  [.fnWord, .letWord, .trueWord, .falseWord, .ifWord, .elseWord, .elsifWord, .returnWord,
   .andWord, .orWord, .forWord, .whileWord]

inductive Dialect where
  | eng | trk | qzq
  deriving DecidableEq, Repr

namespace Dialect

def all : List Dialect := [.eng, .trk, .qzq]

/-- The dialect of a source that names none, and the one that stands in for an unknown name. -/
def standard : Dialect := .eng

def name : Dialect → String
  | .eng => "eng"
  | .trk => "trk"
  | .qzq => "qzq"

def ofName? (name : String) : Option Dialect :=
  all.find? (·.name == name)

/-- The dialect of that name, the standard one if there is none. -/
def resolve (name : String) : Dialect :=
  (ofName? name).getD standard

def spelling : Dialect → Keyword → String
  | .eng, .fnWord => "fn"
  | .eng, .letWord => "let"
  | .eng, .trueWord => "true"
  | .eng, .falseWord => "false"
  | .eng, .ifWord => "if"
  | .eng, .elseWord => "else"
  | .eng, .elsifWord => "elsif"
  | .eng, .returnWord => "return"
  | .eng, .andWord => "and"
  | .eng, .orWord => "or"
  | .eng, .forWord => "for"
  | .eng, .whileWord => "while"
  | .trk, .fnWord => "fn"
  | .trk, .letWord => "olsun"
  | .trk, .trueWord => "doğru"
  | .trk, .falseWord => "yanlış"
  | .trk, .ifWord => "eğer"
  | .trk, .elseWord => "yoksa"
  | .trk, .elsifWord => "yok_eğer"
  | .trk, .returnWord => "döndür"
  | .trk, .andWord => "ve"
  | .trk, .orWord => "veya"
  | .trk, .forWord => "için"
  | .trk, .whileWord => "iken"
  | .qzq, .fnWord => "фн"
  | .qzq, .letWord => "болсын"
  | .qzq, .trueWord => "шын"
  | .qzq, .falseWord => "жалған"
  | .qzq, .ifWord => "егер"
  | .qzq, .elseWord => "әйтпесе"
  | .qzq, .elsifWord => "егер_әйтпесе"
  | .qzq, .returnWord => "қайтару"
  | .qzq, .andWord => "және"
  | .qzq, .orWord => "немесе"
  | .qzq, .forWord => "үшін"
  | .qzq, .whileWord => "уақытша"

def keyword? (dialect : Dialect) (word : String) : Option Keyword :=
  Keyword.all.find? (dialect.spelling · == word)

end Dialect

/-- The spelling in the standard dialect, which canonical text uses. -/
def Keyword.canonical (keyword : Keyword) : String :=
  Dialect.standard.spelling keyword

end Polyglot
