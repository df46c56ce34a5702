import QueryOptions.Section.Intake
import QueryOptions.Value.Number
import QueryOptions.Call

/-!
# QueryOptions.Section.Pagination

The `pagination` section: one page of the rows. Pages are counted from one. An absent page or size,
zero included, is replaced by the default one, and a size never exceeds the largest one. A page
before the first one gives a negative number of rows to skip; nothing is cut off there.

The parts of a page are settled one after the other: page and size, the size within its bound, the
limit, the rows to skip. What is settled before a part is refused stays.
-/

namespace QueryOptions

structure PageSettings where
  defaultPage : Value := .int 1
  defaultSize : Value := .int 30
  maxSize : Value := .null
deriving Repr

/-- A page: its number and size, and the rows that it cuts out. -/
structure Page where
  page : Value := .null
  size : Value := .null
  limit : Value := .null
  skip : Value := .null
deriving Repr

/-- The `pagination` section. -/
abbrev Pagination := Section PageSettings Page

namespace Pagination

/-- A new section; a largest size has to be positive. -/
def new (settings : PageSettings) : Except Fault Pagination :=
  match settings.maxSize with
  | .null => .ok { settings }
  | bound =>
    match Value.less (.int 0) bound with
    | .error f => .error f
    | .ok true => .ok { settings }
    | .ok false => .error .sizeLimit

/-- Whether a value may be a page or a size: a whole number or null. -/
def isCount : Value → Bool
  | .null => true
  | .int _ => true
  | _ => false

/-- A size within its bound, if there is one. -/
def bounded (bound size : Value) : Except Fault Value :=
  if bound.isFalsy then .ok size else Value.lesser bound size

def rowsBefore (page size : Value) : Except Fault Value :=
  match page.pred with
  | .error f => .error f
  | .ok before => before.times size

def settle (settings : PageSettings) (page size : Value) : Attempt Page :=
  let page := page.orElse settings.defaultPage
  let size := size.orElse settings.defaultSize
  match bounded settings.maxSize size with
  | .error f => ⟨some { page, size }, some f⟩
  | .ok size =>
    match rowsBefore page size with
    | .error f => ⟨some { page, size, limit := size }, some f⟩
    | .ok skip => ⟨some { page, size, limit := size, skip }, none⟩

/-- Reads the number and the size of a page. -/
def look (settings : PageSettings) (v : Value) : Attempt Page :=
  match v with
  | .null => settle settings .null .null
  | .dict entries =>
    let page := Dict.get entries "page"
    let size := Dict.get entries "size"
    if !isCount page then ⟨none, some (.input (.paginationNumber "page"))⟩
    else if !isCount size then ⟨none, some (.input (.paginationNumber "size"))⟩
    else settle settings page size
  | v => ⟨none, some (.input (.paginationShape v.kind))⟩

def give (v : Value) (s : Pagination) : Pagination × Except Fault Unit :=
  s.receive SectionName.pagination.reader look v

def page (s : Pagination) : Page := s.reading.getD {}

/-- The number of rows of the page, and the number of rows before it. -/
def compile (s : Pagination) : Value × Value := (s.page.limit, s.page.skip)

def steps (s : Pagination) : List Step := [.limit s.page.limit, .skip s.page.skip]

def final (s : Pagination) : Value :=
  .dict [(.text "page", s.page.page), (.text "size", s.page.size)]

/-- The limit and the rows to skip for a page number and a page size. -/
def resolve (page size : Value) : Except Fault (Value × Value) :=
  let (s, outcome) :=
    give (.dict [(.text "page", page), (.text "size", size)]) { settings := {} }
  match outcome with
  | .error f => .error f
  | .ok _ => .ok s.compile

end Pagination
end QueryOptions
