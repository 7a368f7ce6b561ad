import Mathlib.Data.List.Basic
import Mathlib.Data.List.TakeWhile

/-!
# Text with markup

A reader of a small markup: tags that open and close, of which the preformatted block never
nests, and entities. A message is made of lines in which every text knows where it comes
from: the program itself, an input as it stands, or an input with its markup
characters escaped. A template is a list of pieces that leaves the reader where it was
whenever the inputs it takes as they stand hold no markup.
-/

namespace Markup

/-! ## The reader -/

inductive Tag where
  | pre | bold | code
  deriving DecidableEq

def Tag.name : Tag → List Char
  | .pre => "pre".toList
  | .bold => "b".toList
  | .code => "code".toList

def tag? (name : List Char) : Option Tag :=
  [.pre, .bold, .code].find? (·.name = name)

/-- The entities of the characters that markup is made of, and of the quotes. -/
def entities : List (List Char) :=
  ["amp".toList, "lt".toList, "gt".toList, "quot".toList, "#x27".toList]

/-- Where the reader is: in text, in a tag, or in an entity, of which it holds the name. -/
inductive Mode where
  | text
  | tag (name : List Char)
  | entity (name : List Char)
  deriving DecidableEq

/-- The tags that are open, the innermost first. -/
structure Reader where
  stack : List Tag
  mode : Mode
  deriving DecidableEq

/-- A preformatted block opens outside of every other. -/
def openTag (stack : List Tag) (t : Tag) : Option (List Tag) :=
  if t = .pre ∧ .pre ∈ stack then none else some (t :: stack)

def closeTag (t : Tag) : List Tag → Option (List Tag)
  | [] => none
  | top :: stack => if top = t then some stack else none

def tagged (stack : List Tag) : List Char → Option (List Tag)
  | '/' :: name => (tag? name).bind (closeTag · stack)
  | name => (tag? name).bind (openTag stack)

namespace Reader

def step (r : Reader) (c : Char) : Option Reader :=
  match r.mode with
  | .text =>
      if c = '<' then some { r with mode := .tag [] }
      else if c = '&' then some { r with mode := .entity [] }
      else if c = '>' then none
      else some r
  | .tag name =>
      if c = '>' then (tagged r.stack name).map fun stack => ⟨stack, .text⟩
      else some { r with mode := .tag (name ++ [c]) }
  | .entity name =>
      if c = ';' then if name ∈ entities then some { r with mode := .text } else none
      else some { r with mode := .entity (name ++ [c]) }

def scan (cs : List Char) (r : Reader) : Option Reader := cs.foldlM step r

end Reader

open Reader

/-- The text is read from start to end, and every tag it opens it closes. -/
def WellFormed (cs : List Char) : Prop := scan cs ⟨[], .text⟩ = some ⟨[], .text⟩

instance (cs : List Char) : Decidable (WellFormed cs) := inferInstanceAs (Decidable (_ = _))

theorem scan_append (cs cs' : List Char) (r : Reader) :
    scan (cs ++ cs') r = (scan cs r).bind (scan cs') :=
  List.foldlM_append ..

/-- Read inside these tags, the text leaves them as they are. -/
def Keeps (stack : List Tag) (cs : List Char) : Prop :=
  scan cs ⟨stack, .text⟩ = some ⟨stack, .text⟩

instance (stack : List Tag) (cs : List Char) : Decidable (Keeps stack cs) :=
  inferInstanceAs (Decidable (_ = _))

/-- The same inside any tags. -/
def Inline (cs : List Char) : Prop := ∀ stack, Keeps stack cs

section Keeps

variable {stack : List Tag} {cs cs' : List Char}

theorem Keeps.nil : Keeps stack [] := rfl

theorem Keeps.append (h : Keeps stack cs) (h' : Keeps stack cs') : Keeps stack (cs ++ cs') := by
  rw [Keeps, scan_append, h]
  exact h'

theorem Inline.nil : Inline [] := fun _ => Keeps.nil

theorem Inline.append (h : Inline cs) (h' : Inline cs') : Inline (cs ++ cs') :=
  fun stack => (h stack).append (h' stack)

theorem Inline.bold (h : Inline cs) : Inline ("<b>".toList ++ cs ++ "</b>".toList) := by
  intro stack
  have hopen : scan "<b>".toList ⟨stack, .text⟩ = some ⟨.bold :: stack, .text⟩ := rfl
  have hclose : scan "</b>".toList ⟨.bold :: stack, .text⟩ = some ⟨stack, .text⟩ := rfl
  rw [Keeps, scan_append, scan_append, hopen, Option.bind_some, h, Option.bind_some, hclose]

theorem Inline.code (h : Inline cs) : Inline ("<code>".toList ++ cs ++ "</code>".toList) := by
  intro stack
  have hopen : scan "<code>".toList ⟨stack, .text⟩ = some ⟨.code :: stack, .text⟩ := rfl
  have hclose : scan "</code>".toList ⟨.code :: stack, .text⟩ = some ⟨stack, .text⟩ := rfl
  rw [Keeps, scan_append, scan_append, hopen, Option.bind_some, h, Option.bind_some, hclose]

/-- A block around what stays in it is a whole text. -/
theorem Keeps.wellFormed (h : Keeps [.pre] cs) :
    WellFormed ("<pre>".toList ++ cs ++ "</pre>".toList) := by
  have hopen : scan "<pre>".toList ⟨[], .text⟩ = some ⟨[.pre], .text⟩ := rfl
  have hclose : scan "</pre>".toList ⟨[.pre], .text⟩ = some ⟨[], .text⟩ := rfl
  rw [WellFormed, scan_append, scan_append, hopen, Option.bind_some, h, Option.bind_some, hclose]

end Keeps

/-! ## Texts without markup -/

/-- A character that is no markup. -/
def isPlain (c : Char) : Bool := c ≠ '<' && c ≠ '>' && c ≠ '&'

def Clean (cs : List Char) : Prop := ∀ c ∈ cs, isPlain c = true

instance (cs : List Char) : Decidable (Clean cs) :=
  List.decidableBAll (fun c => isPlain c = true) cs

section Clean

variable {cs cs' : List Char}

@[simp] theorem clean_nil : Clean [] := fun _ h => (nomatch h)

@[simp] theorem clean_append : Clean (cs ++ cs') ↔ Clean cs ∧ Clean cs' :=
  List.forall_mem_append

@[simp] theorem clean_cons {c : Char} : Clean (c :: cs) ↔ isPlain c = true ∧ Clean cs :=
  List.forall_mem_cons

theorem step_of_plain {c : Char} (h : isPlain c = true) (stack : List Tag) :
    step ⟨stack, .text⟩ c = some ⟨stack, .text⟩ := by
  simp only [isPlain, Bool.and_eq_true, decide_eq_true_eq] at h
  obtain ⟨⟨hopen, hclose⟩, hamp⟩ := h
  simp only [step, if_neg hopen, if_neg hclose, if_neg hamp]

theorem Clean.inline (h : Clean cs) : Inline cs := by
  intro stack
  induction cs with
  | nil => exact Keeps.nil
  | cons c cs ih =>
      rw [clean_cons] at h
      rw [Keeps, scan, List.foldlM_cons, step_of_plain h.1 stack]
      exact ih h.2

end Clean

/-- The escape of a character, quotes included. -/
def escapeChar (c : Char) : List Char :=
  if c = '&' then "&amp;".toList
  else if c = '<' then "&lt;".toList
  else if c = '>' then "&gt;".toList
  else if c = '"' then "&quot;".toList
  else if c = '\'' then "&#x27;".toList
  else [c]

def escape (cs : List Char) : List Char := cs.flatMap escapeChar

theorem escapeChar_inline (c : Char) : Inline (escapeChar c) := by
  unfold escapeChar
  split_ifs with hamp hlt hgt
  · exact fun _ => rfl
  · exact fun _ => rfl
  · exact fun _ => rfl
  · exact fun _ => rfl
  · exact fun _ => rfl
  · exact Clean.inline (by simp [isPlain, hamp, hlt, hgt])

/-- An escaped text is read as text. -/
theorem escape_inline (cs : List Char) : Inline (escape cs) := by
  induction cs with
  | nil => exact Inline.nil
  | cons c cs ih => exact (escapeChar_inline c).append ih

/-! ## Blanks at the ends -/

/-- A text without the blanks at its ends. -/
def trim (blank : Char → Bool) (cs : List Char) : List Char :=
  ((cs.dropWhile blank).reverse.dropWhile blank).reverse

section Trim

variable {blank : Char → Bool}

theorem trim_split (cs : List Char) : ∃ before after, cs = before ++ (trim blank cs ++ after) ∧
    (∀ c ∈ before, blank c = true) ∧ ∀ c ∈ after, blank c = true := by
  refine ⟨cs.takeWhile blank, (((cs.dropWhile blank).reverse).takeWhile blank).reverse, ?_,
    fun c hc => List.mem_takeWhile_imp hc,
    fun c hc => List.mem_takeWhile_imp (List.mem_reverse.mp hc)⟩
  rw [trim, ← List.reverse_append, List.takeWhile_append_dropWhile, List.reverse_reverse,
    List.takeWhile_append_dropWhile]

/-- Blanks that end in text began in text. -/
theorem text_of_scan_blanks (hblank : ∀ c, blank c = true → c ≠ '>' ∧ c ≠ ';')
    {cs : List Char} (hcs : ∀ c ∈ cs, blank c = true) {r : Reader} {stack : List Tag}
    (h : scan cs r = some ⟨stack, .text⟩) : r.mode = .text := by
  induction cs generalizing r with
  | nil => rw [Option.some.inj h]
  | cons c cs ih =>
      obtain ⟨hgt, hsemi⟩ := hblank c (hcs c List.mem_cons_self)
      rw [scan, List.foldlM_cons] at h
      rcases hmode : r.mode with _ | name | name
      · rfl
      · have hstep : step r c = some { r with mode := .tag (name ++ [c]) } := by
          simp only [step, hmode, if_neg hgt]
        rw [hstep] at h
        cases ih (fun c' hc' => hcs c' (List.mem_cons_of_mem _ hc')) h
      · have hstep : step r c = some { r with mode := .entity (name ++ [c]) } := by
          simp only [step, hmode, if_neg hsemi]
        rw [hstep] at h
        cases ih (fun c' hc' => hcs c' (List.mem_cons_of_mem _ hc')) h

/-- The blanks at the ends of a text are not what keeps the tags. -/
theorem Keeps.trim {stack : List Tag} {cs : List Char} (h : Keeps stack cs)
    (hplain : ∀ c, blank c = true → isPlain c = true ∧ c ≠ ';') :
    Keeps stack (Markup.trim blank cs) := by
  obtain ⟨before, after, hcs, hbefore, hafter⟩ := @trim_split blank cs
  have hkeeps : Keeps stack before :=
    Clean.inline (fun c hc => (hplain c (hbefore c hc)).1) stack
  rw [Keeps, hcs, scan_append, hkeeps, Option.bind_some, scan_append] at h
  rcases hmid : scan (Markup.trim blank cs) ⟨stack, .text⟩ with _ | r
  · rw [hmid] at h
    cases h
  · rw [hmid] at h
    have hmode : r.mode = .text := by
      refine text_of_scan_blanks (fun c hc => ?_) hafter h
      have hc := hplain c hc
      simp only [isPlain, Bool.and_eq_true, decide_eq_true_eq] at hc
      exact ⟨hc.1.1.2, hc.2⟩
    obtain ⟨stack', mode⟩ := r
    cases hmode
    have hend := Clean.inline (fun c hc => (hplain c (hafter c hc)).1) stack'
    exact hmid.trans (hend.symm.trans h)

end Trim

/-! ## Lines -/

/-- A text, by where it comes from. -/
inductive Source where
  | own (s : String)
  | input (s : String)
  | escaped (s : String)

namespace Source

def chars : Source → List Char
  | own s => s.toList
  | input s => s.toList
  | escaped s => escape s.toList

/-- The text of an input that is taken as it stands. -/
def unescaped? : Source → Option String
  | input s => some s
  | own _ | escaped _ => none

/-- The program's own text holds no markup. -/
def Sound : Source → Prop
  | own s => Clean s.toList
  | input _ | escaped _ => True

theorem Sound.inline {part : Source} (h : part.Sound)
    (hclean : ∀ s ∈ part.unescaped?, Clean s.toList) : Inline part.chars := by
  cases part with
  | own s => exact Clean.inline h
  | input s => exact Clean.inline (hclean s rfl)
  | escaped s => exact escape_inline s.toList

@[simp] theorem sound_own {s : String} : (own s).Sound ↔ Clean s.toList := Iff.rfl

@[simp] theorem sound_input {s : String} : (input s).Sound := trivial

@[simp] theorem sound_escaped {s : String} : (escaped s).Sound := trivial

/-- The program's own text without markup, or an escaped one. -/
def Settled (part : Source) : Prop := part.Sound ∧ part.unescaped? = none

@[simp] theorem settled_own {s : String} : (own s).Settled ↔ Clean s.toList :=
  and_iff_left rfl

@[simp] theorem settled_escaped {s : String} : (escaped s).Settled := ⟨trivial, rfl⟩

/-- Settled texts stay settled when they are joined by settled ones. -/
theorem settled_intercalate {sep : List Source} (hsep : ∀ part ∈ sep, part.Settled)
    {groups : List (List Source)} (hgroups : ∀ group ∈ groups, ∀ part ∈ group, part.Settled) :
    ∀ part ∈ sep.intercalate groups, part.Settled := by
  induction groups with
  | nil => exact fun _ h => (nomatch h)
  | cons group groups ih =>
      rw [List.forall_mem_cons] at hgroups
      cases groups with
      | nil => simpa using hgroups.1
      | cons group' groups =>
          rw [List.intercalate_cons_cons]
          simp only [List.forall_mem_append]
          exact ⟨⟨hgroups.1, hsep⟩, ih hgroups.2⟩

section Unescaped

variable {s : String} {parts : List Source}

@[simp] theorem unescaped_own_cons :
    (own s :: parts).filterMap unescaped? = parts.filterMap unescaped? := rfl

@[simp] theorem unescaped_input_cons :
    (input s :: parts).filterMap unescaped? = s :: parts.filterMap unescaped? := rfl

@[simp] theorem unescaped_escaped_cons :
    (escaped s :: parts).filterMap unescaped? = parts.filterMap unescaped? := rfl

end Unescaped

end Source

inductive Style where
  | plain | bold | code

/-- Texts in one style. -/
structure Span where
  style : Style
  parts : List Source

abbrev Line := List Span

def plain (parts : List Source) : Span := ⟨.plain, parts⟩

def bold (parts : List Source) : Span := ⟨.bold, parts⟩

def code (parts : List Source) : Span := ⟨.code, parts⟩

namespace Span

def chars (span : Span) : List Char :=
  let text := span.parts.flatMap Source.chars
  match span.style with
  | .plain => text
  | .bold => "<b>".toList ++ text ++ "</b>".toList
  | .code => "<code>".toList ++ text ++ "</code>".toList

def Sound (span : Span) : Prop := ∀ part ∈ span.parts, part.Sound

def unescaped (span : Span) : List String := span.parts.filterMap Source.unescaped?

theorem Sound.inline {span : Span} (h : span.Sound)
    (hclean : ∀ s ∈ span.unescaped, Clean s.toList) : Inline span.chars := by
  have htext : Inline (span.parts.flatMap Source.chars) := by
    obtain ⟨style, parts⟩ := span
    induction parts with
    | nil => exact Inline.nil
    | cons part parts ih =>
        rw [List.flatMap_cons]
        refine ((h part List.mem_cons_self).inline fun s hs => hclean s ?_).append
          (ih (fun part' hpart' => h part' (List.mem_cons_of_mem _ hpart'))
            fun s hs => hclean s ?_)
        · exact List.mem_filterMap.mpr ⟨part, List.mem_cons_self, hs⟩
        · obtain ⟨part', hpart', hs'⟩ := List.mem_filterMap.mp hs
          exact List.mem_filterMap.mpr ⟨part', List.mem_cons_of_mem _ hpart', hs'⟩
  unfold chars
  cases span.style with
  | plain => exact htext
  | bold => exact htext.bold
  | code => exact htext.code

section Parts

variable {parts : List Source}

@[simp] theorem sound_plain : (plain parts).Sound ↔ ∀ part ∈ parts, part.Sound := Iff.rfl

@[simp] theorem sound_bold : (bold parts).Sound ↔ ∀ part ∈ parts, part.Sound := Iff.rfl

@[simp] theorem sound_code : (code parts).Sound ↔ ∀ part ∈ parts, part.Sound := Iff.rfl

@[simp] theorem unescaped_plain :
    (plain parts).unescaped = parts.filterMap Source.unescaped? := rfl

@[simp] theorem unescaped_bold :
    (bold parts).unescaped = parts.filterMap Source.unescaped? := rfl

@[simp] theorem unescaped_code :
    (code parts).unescaped = parts.filterMap Source.unescaped? := rfl

end Parts

end Span

namespace Line

def chars (line : Line) : List Char := line.flatMap Span.chars

def Sound (line : Line) : Prop := ∀ span ∈ line, span.Sound

/-- The inputs that go into the line as they stand. -/
def unescaped (line : Line) : List String := line.flatMap Span.unescaped

/-- A line leaves the tags as they are when the inputs it takes as they stand are clean. -/
theorem Sound.inline {line : Line} (h : line.Sound)
    (hclean : ∀ s ∈ line.unescaped, Clean s.toList) : Inline line.chars := by
  induction line with
  | nil => exact Inline.nil
  | cons span line ih =>
      rw [chars, List.flatMap_cons]
      refine ((h span List.mem_cons_self).inline fun s hs => hclean s ?_).append
        (ih (fun span' hspan' => h span' (List.mem_cons_of_mem _ hspan')) fun s hs =>
          hclean s ?_)
      · exact List.mem_flatMap.mpr ⟨span, List.mem_cons_self, hs⟩
      · obtain ⟨span', hspan', hs'⟩ := List.mem_flatMap.mp hs
        exact List.mem_flatMap.mpr ⟨span', List.mem_cons_of_mem _ hspan', hs'⟩

variable {span : Span} {line line' : Line}

@[simp] theorem sound_nil : Sound [] := fun _ h => (nomatch h)

@[simp] theorem sound_cons : Sound (span :: line) ↔ span.Sound ∧ line.Sound :=
  List.forall_mem_cons

@[simp] theorem sound_append : Sound (line ++ line') ↔ line.Sound ∧ line'.Sound :=
  List.forall_mem_append

@[simp] theorem unescaped_nil : unescaped [] = [] := rfl

@[simp] theorem unescaped_cons : unescaped (span :: line) = span.unescaped ++ line.unescaped :=
  List.flatMap_cons

@[simp] theorem unescaped_append : unescaped (line ++ line') = line.unescaped ++ line'.unescaped :=
  List.flatMap_append

end Line

/-! ## Blocks -/

theorem Keeps.intercalate {stack : List Tag} {sep : List Char} (hsep : Keeps stack sep)
    {parts : List (List Char)} (hparts : ∀ part ∈ parts, Keeps stack part) :
    Keeps stack (sep.intercalate parts) := by
  induction parts with
  | nil => exact Keeps.nil
  | cons part parts ih =>
      rw [List.forall_mem_cons] at hparts
      cases parts with
      | nil => simpa using hparts.1
      | cons part' parts =>
          rw [List.intercalate_cons_cons]
          exact (hparts.1.append hsep).append (ih hparts.2)

/-- Lines one below the other, and what follows them. -/
def block (lines : List Line) (tail : List (List Char)) : List Char :=
  "\n".toList.intercalate (lines.map Line.chars ++ tail)

theorem block_keeps {lines : List Line} {tail : List (List Char)} {stack : List Tag}
    (hlines : ∀ line ∈ lines, line.Sound) (htail : ∀ cs ∈ tail, Keeps stack cs)
    (hclean : ∀ line ∈ lines, ∀ s ∈ line.unescaped, Clean s.toList) :
    Keeps stack (block lines tail) := by
  have hbreak : Inline "\n".toList := Clean.inline (by decide)
  refine (hbreak stack).intercalate fun part hpart => ?_
  rcases List.mem_append.mp hpart with hline | hrest
  · obtain ⟨line, hmem, rfl⟩ := List.mem_map.mp hline
    exact (hlines line hmem).inline (hclean line hmem) stack
  · exact htail part hrest

end Markup
