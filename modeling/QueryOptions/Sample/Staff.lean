import QueryOptions.Identifier
import QueryOptions.Store.Registry

/-!
# QueryOptions.Sample.Staff

Persons, their teams and their tags. Persons are known by document identifiers, teams and tags by
whole numbers. The class `VIP` sees the rows of `Person` and takes its session from it.
-/

namespace QueryOptions
namespace Sample

open Store

/-! ## Models -/

def tagShape : Shape where
  title := "Tag"
  table := "tags"
  key := ⟨"id", .integer⟩
  columns := [⟨"id", .integer⟩, ⟨"label", .text⟩, ⟨"weight", .integer⟩]

def teamShape : Shape where
  title := "Team"
  table := "teams"
  key := ⟨"id", .integer⟩
  columns := [⟨"id", .integer⟩, ⟨"name", .text⟩, ⟨"city", .text⟩]

def personColumns : List Column :=
  [⟨"id", .text⟩, ⟨"name", .text⟩, ⟨"nick", .text⟩, ⟨"age", .integer⟩, ⟨"level", .integer⟩,
    ⟨"active", .boolean⟩, ⟨"title", .text⟩, ⟨"team_id", .integer⟩]

/-- Persons, under a name of the model. -/
def personShape (title : String) : Shape where
  title := title
  table := "persons"
  key := ⟨"id", .text⟩
  columns := personColumns

def tagModel : Model := ⟨tagShape, []⟩

def teamModel : Model := ⟨teamShape, [⟨"members", personShape "Person", .toMany "team_id"⟩]⟩

/-- The model of persons, under a name. -/
def personModel (title : String) : Model :=
  ⟨personShape title,
    [⟨"tags", tagShape, .through "person_tags"⟩, ⟨"team", teamShape, .toOne "team_id"⟩]⟩

/-! ## Rows -/

def textCell : Option String → Cell
  | some s => .text s
  | none => .null

def integerCell : Option Int → Cell
  | some n => .integer n
  | none => .null

def booleanCell : Option Bool → Cell
  | some b => .integer (if b then 1 else 0)
  | none => .null

def tagRow (id : Int) (label : String) (weight : Option Int) : Row :=
  [("id", .integer id), ("label", .text label), ("weight", integerCell weight)]

def teamRow (id : Int) (name : String) (city : Option String) : Row :=
  [("id", .integer id), ("name", .text name), ("city", textCell city)]

/-- A person: a number, the columns, and the numbers of the tags. -/
structure Person where
  number : Nat
  name : String
  nick : Option String
  age : Option Int
  level : Int
  active : Option Bool
  title : Option String
  team : Option Int
  tags : List Int

namespace Person

def identifier (p : Person) : String := Identifier.ofNat (0x5B0E0000 + p.number)

def row (p : Person) : Row :=
  [("id", .text p.identifier), ("name", .text p.name), ("nick", textCell p.nick),
    ("age", integerCell p.age), ("level", .integer p.level), ("active", booleanCell p.active),
    ("title", textCell p.title), ("team_id", integerCell p.team)]

def tagPairs (p : Person) : List (Cell × Cell) :=
  p.tags.map fun tag => (.text p.identifier, .integer tag)

end Person

def persons : List Person :=
  [⟨0, "Admin", some "root", some 40, 10, some true, some "Boss", some 1, [1, 2, 3]⟩,
    ⟨1, "Administrator", none, some 30, 9, some true, some "Boss", some 1, [1]⟩,
    ⟨2, "editor", some "Ed", some 25, 7, some true, some "Writer", some 2, [2, 3]⟩,
    ⟨3, "Author", some "", some 18, 5, some true, some "Writer", some 2, []⟩,
    ⟨4, "Moderator", some "mod", some 12, 4, some false, none, some 3, [4]⟩,
    ⟨5, "Reviewer", some "rev", some 12, 4, some true, none, none, [5, 1]⟩,
    ⟨6, "Guest", none, none, 0, none, none, none, []⟩,
    ⟨7, "Banned", some "root", some 0, -1, some false, some "", some 3, [3]⟩,
    ⟨8, "\u00c9lodie", some "\u00e9l", some 33, 3, some true, some "Chef d\u2019\u00e9quipe",
      some 1, [5]⟩,
    ⟨9, "\u0416\u0435\u043d\u044f", some "\u0436", some (-5), 2, some true, some "Writer", some 2,
      [1, 2, 3, 4, 5]⟩,
    ⟨10, "a.b*c", some "50%", some 7, 1, some false, some "x_y", none, []⟩,
    ⟨11, "line\nbreak", some " sp ", some 100, 1, some true, some "12", some 3, [2]⟩,
    ⟨12, "😀 smile", some "\uff41", some 2147483648, 6, none, some "012", some 1, [3, 1]⟩,
    ⟨13, "ADMIN", some "Root", some 40, 8, some false, some "boss", some 2, [2]⟩]

def database : Database where
  tables :=
    [("tags",
        [tagRow 1 "red" (some 5), tagRow 2 "green" (some 3), tagRow 3 "blue" none,
          tagRow 4 "Red" (some 0), tagRow 5 "\u017elut\u00e1" (some (-2))]),
      ("teams",
        [teamRow 1 "Alpha" (some "Oslo"), teamRow 2 "Beta" none, teamRow 3 "Gamma" (some "oslo"),
          teamRow 4 "Empty" (some "R\u00edo")]),
      ("persons", persons.map Person.row)]
  pairs := [("person_tags", persons.flatMap Person.tagPairs)]

def session : Session := ⟨"session", database⟩

def scopedSession : Session := ⟨"scoped", database⟩

/-! ## Classes -/

/-- The class above all others; it has no rows. -/
def baseName : String := "Base"

def classes : List ModelClass :=
  [⟨"Tag", ["Tag", baseName], tagModel⟩, ⟨"Team", ["Team", baseName], teamModel⟩,
    ⟨"Person", ["Person", baseName], personModel "Person"⟩,
    ⟨"VIP", ["VIP", "Person", baseName], personModel "VIP"⟩]

def class? (name : String) : Option ModelClass := classes.find? fun c => c.name == name

/-- All classes in one session, without settings. -/
def registry : Registry := ({} : Registry).bind baseName (.session session)

end Sample
end QueryOptions
