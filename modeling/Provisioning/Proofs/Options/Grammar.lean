import Mathlib.Data.List.TakeWhile
import Provisioning.Options
import Provisioning.Proofs.Except
import Provisioning.Proofs.Text.Utf8

/-! # What the arguments may be

Arguments are an arrangement of items: settings with their values in any of five forms, the flag of the
preview and the project, which may also stand behind a separator. Every item is read as a whole wherever it
stands, so that what an arrangement means depends on its items alone; and every list of words that is read
as options is an arrangement. -/
namespace Provisioning.Options

/-! ## Arrangements -/

/-- The ways to write a setting with its value. -/
inductive Form where
  /-- A long name, and the value as the next word. -/
  | apart
  /-- A long name, an equals sign and the value. -/
  | joined
  /-- A letter, and the value as the next word. -/
  | letterApart
  /-- A letter, an equals sign and the value. -/
  | letterEquals
  /-- A letter and the value right behind it. -/
  | letterJoined
deriving DecidableEq, Repr

/-- What arguments are put together from. -/
inductive Item where
  | setting (which : Setting) (form : Form) (value : Word)
  | preview
  | project (value : Word)
deriving DecidableEq, Repr

/-- The long name of a setting. -/
def Setting.name : Setting → Word
  | .configuration => word "config"
  | .schemaDirectory => word "proto-dir"

/-- The letter of a setting; the schema directory has none. -/
def Setting.letter? : Setting → Option UInt8
  | .configuration => some 0x63
  | .schemaDirectory => none

/-- Whether a word starts with a dash and is more than that. -/
def LooksLikeOption (w : Word) : Prop :=
  ∃ second rest, w = dash :: second :: rest

instance : DecidablePred LooksLikeOption
  | [] | [_] => .isFalse nofun
  | first :: second :: rest =>
    decidable_of_iff (first = dash)
      ⟨fun h => ⟨second, rest, by rw [h]⟩, fun ⟨_, _, h⟩ => (List.cons.inj h).1⟩

/-- The words of a setting in each form; without a letter there is no form that needs one. -/
def Form.words (which : Setting) (value : Word) : Form → List Word
  | .apart => [dash :: dash :: which.name, value]
  | .joined => [dash :: dash :: (which.name ++ equals :: value)]
  | .letterApart => [dash :: which.letter?.toList, value]
  | .letterEquals => [dash :: (which.letter?.toList ++ equals :: value)]
  | .letterJoined => [dash :: (which.letter?.toList ++ value)]

/-- Whether a value can be written in some form. One that stands apart does not look like an option, and one
right behind a letter does not start with an equals sign. -/
def Form.Fits (which : Setting) (value : Word) : Form → Prop
  | .apart => ¬ LooksLikeOption value
  | .joined => True
  | .letterApart => which.letter?.isSome ∧ ¬ LooksLikeOption value
  | .letterEquals => which.letter?.isSome
  | .letterJoined => which.letter?.isSome ∧ value.head? ≠ some equals

instance (which : Setting) (value : Word) : DecidablePred (Form.Fits which value)
  | .apart => inferInstanceAs (Decidable (¬ LooksLikeOption value))
  | .joined => inferInstanceAs (Decidable True)
  | .letterApart => inferInstanceAs (Decidable (which.letter?.isSome ∧ ¬ LooksLikeOption value))
  | .letterEquals => inferInstanceAs (Decidable (which.letter?.isSome = true))
  | .letterJoined => inferInstanceAs (Decidable (which.letter?.isSome ∧ value.head? ≠ some equals))

namespace Item

/-- The words an item is written in. -/
def words : Item → List Word
  | .setting which form value => form.words which value
  | .preview => [dash :: dash :: word "dry-run"]
  | .project value => [value]

/-- Whether an item can be written down: values are not empty, and the project does not look like an
option. -/
def IsLegal : Item → Prop
  | .setting which form value => value ≠ [] ∧ form.Fits which value
  | .preview => True
  | .project value => ¬ LooksLikeOption value

instance : DecidablePred IsLegal
  | .setting which form value => inferInstanceAs (Decidable (value ≠ [] ∧ form.Fits which value))
  | .preview => inferInstanceAs (Decidable True)
  | .project value => inferInstanceAs (Decidable (¬ LooksLikeOption value))

/-- The value an item gives to a setting. -/
def value? (which : Setting) : Item → Option Word
  | .setting other _ value => if other = which then some value else none
  | _ => none

/-- The project that an item names. -/
def project? : Item → Option Word
  | .project value => some value
  | _ => none

end Item

/-- Items in some order, and behind a separator, if there is one, at most one more word. -/
structure Arrangement where
  items : List Item
  separated : Option (Option Word) := none

namespace Arrangement

/-- The words of an arrangement. -/
def words (a : Arrangement) : List Word :=
  a.items.flatMap Item.words ++
    match a.separated with
    | none => []
    | some last => [dash, dash] :: last.toList

/-- Every item can be written down as it is. -/
def IsLegal (a : Arrangement) : Prop :=
  ∀ item ∈ a.items, item.IsLegal

instance : DecidablePred IsLegal :=
  fun a => inferInstanceAs (Decidable (∀ item ∈ a.items, item.IsLegal))

/-- All items; a word behind the separator is a project, whatever it looks like. -/
def contents (a : Arrangement) : List Item :=
  a.items ++ (a.separated.bind id).toList.map .project

/-- The values given to a setting, in order. -/
def values (a : Arrangement) (which : Setting) : List Word :=
  a.contents.filterMap (Item.value? which)

/-- The projects that are named, in order. -/
def projects (a : Arrangement) : List Word :=
  a.contents.filterMap Item.project?

/-- What an arrangement says: each setting and the flag at most once, and the project exactly once, as
text. -/
structure Means (a : Arrangement) (o : Options) : Prop where
  configuration : a.values .configuration = (o.configuration.map Path.octets).toList
  schemaDirectory : a.values .schemaDirectory = (o.schemaDirectory.map Path.octets).toList
  preview : a.contents.count .preview = o.preview.toNat
  project : a.projects = [word o.project]

/-- Two arrangements give the same values, in whatever order and forms. -/
structure SaysAs (a b : Arrangement) : Prop where
  values : ∀ which, (a.values which).Perm (b.values which)
  preview : a.contents.count .preview = b.contents.count .preview
  projects : a.projects.Perm b.projects

end Arrangement

/-! ## Words by their form -/

theorem Token.ofWord_eq_plain_iff (w : Word) : ofWord w = .plain ↔ ¬ LooksLikeOption w := by
  unfold LooksLikeOption
  match w with
  | [] => simp [ofWord]
  | [first] => by_cases h : first = dash <;> simp [ofWord, h]
  | first :: second :: rest =>
    by_cases h : first = dash
    · by_cases hsecond : second = dash
      · by_cases hrest : rest = [] <;> simp [ofWord, h, hsecond, hrest]
      · simp [ofWord, h, hsecond]
    · simp [ofWord, h]

theorem Token.ofWord_separator : ofWord [dash, dash] = .separator := by
  simp [ofWord]

/-- A long name ends at the first equals sign. -/
theorem Token.ofWord_long {name : Word} (hne : name ≠ []) (hname : equals ∉ name) :
    ofWord (dash :: dash :: name) = .long name none := by
  have hplain : ∀ b ∈ name, (b != equals) = true := by
    intro b hb
    simpa using fun heq : b = equals => hname (heq ▸ hb)
  have htake := List.takeWhile_eq_self_iff.2 hplain
  have hdrop := List.dropWhile_eq_nil_iff.2 hplain
  simp [ofWord, hne, htake, hdrop]

theorem Token.ofWord_joined {name : Word} (hname : equals ∉ name) (value : Word) :
    ofWord (dash :: dash :: (name ++ equals :: value)) = .long name (some value) := by
  have hplain : ∀ b ∈ name, (b != equals) = true := by
    intro b hb
    simpa using fun heq : b = equals => hname (heq ▸ hb)
  simp [ofWord, List.takeWhile_append_of_pos hplain, List.dropWhile_append_of_pos hplain]

theorem Token.ofWord_short {letter : UInt8} (h : letter ≠ dash) (attached : Word) :
    ofWord (dash :: letter :: attached) = .short letter attached := by
  simp [ofWord, h]

/-- A name and its value are all of a word that is cut at the first equals sign. -/
theorem cut_at_equals (w : Word) : w.takeWhile (· != equals) ++
    ((w.dropWhile (· != equals)).tail?.map (equals :: ·)).getD [] = w := by
  induction w with
  | nil => rfl
  | cons b rest ih => by_cases hb : b = equals <;> simp [hb, ih]

/-- A word of each form is written like this. -/
theorem Token.ofWord_cases (w : Word) :
    ofWord w = .plain ∧ ¬ LooksLikeOption w ∨
    ofWord w = .separator ∧ w = [dash, dash] ∨
    (∃ name value, ofWord w = .long name value ∧
      w = dash :: dash :: (name ++ (value.map (equals :: ·)).getD [])) ∨
    ∃ letter attached, ofWord w = .short letter attached ∧ w = dash :: letter :: attached := by
  by_cases hplain : LooksLikeOption w
  · obtain ⟨second, rest, rfl⟩ := hplain
    by_cases hsecond : second = dash
    · subst hsecond
      by_cases hrest : rest = []
      · exact .inr (.inl (by simp [ofWord, hrest]))
      · have hlong : ofWord (dash :: dash :: rest) = .long (rest.takeWhile (· != equals))
            (rest.dropWhile (· != equals)).tail? := by
          simp [ofWord, hrest]
        exact .inr (.inr (.inl ⟨_, _, hlong, by rw [cut_at_equals]⟩))
    · exact .inr (.inr (.inr ⟨second, rest, ofWord_short hsecond rest, rfl⟩))
  · exact .inl ⟨(ofWord_eq_plain_iff w).2 hplain, hplain⟩

/-! ## Items are read as a whole -/

/-- What has been read after one more item. -/
def Progress.take (p : Progress) : Item → Except Stop Progress
  | .setting which _ value => p.assign which value
  | .preview => if p.preview then .error .misuse else .ok { p with preview := true }
  | .project value => p.operand value

namespace Progress
variable {p : Progress}

/-- What is expected next has no part in taking a value. -/
theorem assign_expected (p : Progress) (e : Expected) (which : Setting) (value : Word) :
    { p with expected := e }.assign which value = p.assign which value := by
  cases which <;> rfl

theorem push_name (hp : p.expected = .anything) (which : Setting) :
    p.push (dash :: dash :: which.name) = .ok { p with expected := .value which } := by
  have htoken : Token.ofWord (dash :: dash :: which.name) = .long which.name none := by
    cases which <;> exact Token.ofWord_long (by decide) (by decide)
  simp only [push, hp, token, htoken]
  cases which <;> rfl

theorem push_joined (hp : p.expected = .anything) (which : Setting) (value : Word) :
    p.push (dash :: dash :: (which.name ++ equals :: value)) = p.assign which value := by
  have htoken : Token.ofWord (dash :: dash :: (which.name ++ equals :: value)) =
      .long which.name (some value) := by
    cases which <;> exact Token.ofWord_joined (by decide) value
  simp only [push, hp, token, htoken]
  cases which <;> rfl

theorem push_letter (hp : p.expected = .anything) {which : Setting} {letter : UInt8}
    (hletter : which.letter? = some letter) (attached : Word) :
    p.push (dash :: letter :: attached) = p.name which (attachedValue? attached) := by
  cases which with
  | configuration =>
    cases hletter
    simp only [push, hp, token, Token.ofWord_short (show (0x63 : UInt8) ≠ dash by decide)]
    rfl
  | schemaDirectory => cases hletter

theorem push_value {which : Setting} (hp : p.expected = .value which) {value : Word}
    (h : ¬ LooksLikeOption value) : p.push value = p.assign which value := by
  simp only [push, hp, (Token.ofWord_eq_plain_iff value).2 h, if_true]

/-- A setting is read with its value, whatever the form. -/
theorem readFrom_setting (hp : p.expected = .anything) {which : Setting} {form : Form} {value : Word}
    (hvalue : value ≠ []) (hfits : form.Fits which value) (rest : List Word) :
    readFrom p (form.words which value ++ rest) =
      (p.assign which value).bind fun q => readFrom q rest := by
  have hapart : ∀ first, p.push first = .ok { p with expected := .value which } →
      ¬ LooksLikeOption value → readFrom p ([first, value] ++ rest) =
        (p.assign which value).bind fun q => readFrom q rest := by
    intro first hfirst hplain
    rw [List.cons_append, List.singleton_append, readFrom_cons, hfirst]
    show readFrom _ (value :: rest) = _
    rw [readFrom_cons, push_value rfl hplain, assign_expected]
  have htogether : ∀ first, p.push first = p.assign which value →
      readFrom p ([first] ++ rest) = (p.assign which value).bind fun q => readFrom q rest := by
    intro first hfirst
    rw [List.singleton_append, readFrom_cons, hfirst]
  cases form with
  | apart => exact hapart _ (push_name hp which) hfits
  | joined => exact htogether _ (push_joined hp which value)
  | letterApart =>
    obtain ⟨letter, hletter⟩ := Option.isSome_iff_exists.1 hfits.1
    rw [Form.words, hletter]
    exact hapart _ (push_letter hp hletter []) hfits.2
  | letterEquals =>
    obtain ⟨letter, hletter⟩ := Option.isSome_iff_exists.1 hfits
    rw [Form.words, hletter]
    exact htogether _ (push_letter hp hletter (equals :: value))
  | letterJoined =>
    obtain ⟨letter, hletter⟩ := Option.isSome_iff_exists.1 hfits.1
    obtain ⟨first, others, rfl⟩ := List.exists_cons_of_ne_nil hvalue
    have hfirst : first ≠ equals := by simpa using hfits.2
    have hattached : attachedValue? (first :: others) = some (first :: others) := by
      rw [attachedValue?, if_neg hfirst]
    have hpush := push_letter hp hletter (first :: others)
    rw [hattached] at hpush
    rw [Form.words, hletter]
    exact htogether _ hpush

end Progress

/-- The words of an item are read as that item. -/
theorem readFrom_item {p : Progress} (hp : p.expected = .anything) {item : Item} (h : item.IsLegal)
    (rest : List Word) :
    readFrom p (item.words ++ rest) = (p.take item).bind fun q => readFrom q rest := by
  cases item with
  | setting which form value => exact Progress.readFrom_setting hp h.1 h.2 rest
  | preview =>
    have htoken : Token.ofWord (dash :: dash :: word "dry-run") = .long (word "dry-run") none :=
      Token.ofWord_long (by decide) (by decide)
    have hread : p.push (dash :: dash :: word "dry-run") = p.take .preview := by
      simp only [Progress.push, hp, Progress.token, htoken]
      rfl
    rw [Item.words, List.singleton_append, readFrom_cons, hread]
  | project value =>
    have hread : p.push value = p.take (.project value) := by
      simp only [Progress.push, hp, Progress.token, (Token.ofWord_eq_plain_iff value).2 h]
      rfl
    rw [Item.words, List.singleton_append, readFrom_cons, hread]

/-! ## What has been read -/

/-- What has been read says as much as some items do. -/
structure Progress.Says (p : Progress) (items : List Item) : Prop where
  configuration : items.filterMap (Item.value? .configuration) =
    (p.configuration.map Path.octets).toList
  schemaDirectory : items.filterMap (Item.value? .schemaDirectory) =
    (p.schemaDirectory.map Path.octets).toList
  preview : items.count .preview = p.preview.toNat
  project : items.filterMap Item.project? = (p.project.map word).toList

theorem word_eq_iff (value : Word) (text : String) :
    value = word text ↔ Text.Utf8.decode? value = some text.toList :=
  Text.Utf8.decode?_eq_some_iff.symm

namespace Progress
variable {p q : Progress} {items more : List Item}

/-- No more than one value fits where at most one is said. -/
theorem not_toList_of_isSome {α β : Type} {x : Option α} {y : Option β} {a : β} {f : α → β}
    {more : List β} (hx : x.isSome = true) : (x.map f).toList ++ a :: more ≠ y.toList := by
  obtain ⟨b, rfl⟩ := Option.isSome_iff_exists.1 hx
  cases y <;> simp

/-- A project is taken if it is text and there is none yet, or else nothing can be said with it. -/
theorem operand_cases (p : Progress) (value : Word) :
    (∃ text, value = word text ∧ p.project = none ∧
      p.operand value = .ok { p with project := some text }) ∨
    p.operand value = .error .misuse ∧ ∀ (project : Option String) (more : List Word),
      (p.project.map word).toList ++ value :: more ≠ (project.map word).toList := by
  cases hold : p.project with
  | some old =>
    exact .inr ⟨by simp [operand, hold], fun _ _ => not_toList_of_isSome rfl⟩
  | none =>
    cases hdecode : Text.Utf8.decode? value with
    | some text =>
      refine .inl ⟨String.ofList text, ?_, rfl, by simp [operand, hold, hdecode]⟩
      rw [word_eq_iff, hdecode, String.toList_ofList]
    | none =>
      refine .inr ⟨by simp [operand, hold, hdecode], fun project more hall => ?_⟩
      cases project with
      | none => cases hall
      | some text =>
        have hvalue : value = word text := (List.cons.inj hall).1
        rw [word_eq_iff, hdecode] at hvalue
        cases hvalue

/-- An item is taken, or else nothing can be said with it. -/
theorem take_cases (hp : p.expected = .anything) (hheld : p.Says items) {item : Item}
    (h : item.IsLegal) :
    (∃ q, p.take item = .ok q ∧ q.expected = .anything ∧ q.Says (items ++ [item])) ∨
    p.take item = .error .misuse ∧ ∀ q more, ¬ Says q (items ++ item :: more) := by
  obtain ⟨hconfiguration, hdirectory, hpreview, hproject⟩ := hheld
  cases item with
  | setting which form value =>
    have hvalue : value.isEmpty = false := by simpa using h.1
    cases which with
    | configuration =>
      cases hold : p.configuration with
      | some old =>
        refine .inr ⟨by simp [take, assign, hvalue, hold], fun q more hq => ?_⟩
        have hall := hq.configuration
        rw [List.filterMap_append, hconfiguration] at hall
        exact not_toList_of_isSome (by simp [hold]) hall
      | none =>
        exact .inl ⟨{ p with configuration := some ⟨value⟩, expected := .anything },
          by simp [take, assign, hvalue, hold], rfl,
          by simp [hconfiguration, hold, Item.value?], by simp [hdirectory, Item.value?],
          by simp [hpreview], by simp [hproject, Item.project?]⟩
    | schemaDirectory =>
      cases hold : p.schemaDirectory with
      | some old =>
        refine .inr ⟨by simp [take, assign, hvalue, hold], fun q more hq => ?_⟩
        have hall := hq.schemaDirectory
        rw [List.filterMap_append, hdirectory] at hall
        exact not_toList_of_isSome (by simp [hold]) hall
      | none =>
        exact .inl ⟨{ p with schemaDirectory := some ⟨value⟩, expected := .anything },
          by simp [take, assign, hvalue, hold], rfl,
          by simp [hconfiguration, Item.value?], by simp [hdirectory, hold, Item.value?],
          by simp [hpreview], by simp [hproject, Item.project?]⟩
  | preview =>
    cases hold : p.preview with
    | true =>
      refine .inr ⟨by simp [take, hold], fun q more hq => ?_⟩
      have hall := hq.preview
      rw [List.count_append, hpreview, hold, List.count_cons_self] at hall
      have := Bool.toNat_le q.preview
      simp only [Bool.toNat_true] at hall
      omega
    | false =>
      exact .inl ⟨{ p with preview := true }, by simp [take, hold], hp,
        by simp [hconfiguration, Item.value?], by simp [hdirectory, Item.value?],
        by simp [hpreview, hold], by simp [hproject, Item.project?]⟩
  | project value =>
    rcases p.operand_cases value with ⟨text, rfl, hnone, htake⟩ | ⟨htake, hno⟩
    · exact .inl ⟨_, htake, hp, by simp [hconfiguration, Item.value?],
        by simp [hdirectory, Item.value?], by simp [hpreview],
        by simp [hproject, hnone, Item.project?]⟩
    · refine .inr ⟨htake, fun q more hq => ?_⟩
      have hall := hq.project
      rw [List.filterMap_append, hproject] at hall
      exact hno _ _ hall

/-- Items are read one after the other, up to the first with which nothing can be said. -/
theorem readFrom_items (hp : p.expected = .anything) (hheld : p.Says items) {later : List Item}
    (h : ∀ item ∈ later, item.IsLegal) (rest : List Word) :
    (∃ q, readFrom p (later.flatMap Item.words ++ rest) = readFrom q rest ∧
      q.expected = .anything ∧ q.Says (items ++ later)) ∨
    readFrom p (later.flatMap Item.words ++ rest) = .error .misuse ∧
      ∀ q more, ¬ Says q (items ++ (later ++ more)) := by
  induction later generalizing p items with
  | nil => exact .inl ⟨p, rfl, hp, by simpa using hheld⟩
  | cons item later ih =>
    have hread := readFrom_item hp (h item List.mem_cons_self) (later.flatMap Item.words ++ rest)
    rw [List.flatMap_cons, List.append_assoc, hread]
    rcases take_cases hp hheld (h item List.mem_cons_self) with ⟨q, htake, hq, hheld⟩ | ⟨htake, hno⟩
    · have hrest := ih hq hheld fun other hother => h other (List.mem_cons_of_mem _ hother)
      simp only [List.append_assoc, List.singleton_append] at hrest
      rw [htake]
      exact hrest
    · rw [htake]
      exact .inr ⟨rfl, fun q more => hno q (later ++ more)⟩

end Progress

/-! ## Arrangements are read -/

/-- What has been read once it amounts to some options. -/
def progress (o : Options) : Progress where
  configuration := o.configuration
  schemaDirectory := o.schemaDirectory
  preview := o.preview
  project := some o.project

theorem Progress.finish_cases {p : Progress} (hp : ∀ which, p.expected ≠ .value which) :
    (∃ o : Options, p.finish = .ok o ∧ ∀ items, p.Says items ↔ o.progress.Says items) ∨
    p.finish = .error .misuse ∧ p.project = none := by
  rcases p with ⟨configuration, directory, preview, project, expected⟩
  cases expected with
  | value which => exact absurd rfl (hp which)
  | anything | project =>
    cases project with
    | none => exact .inr ⟨rfl, rfl⟩
    | some project =>
      exact .inl ⟨_, rfl, fun items => ⟨fun ⟨h₁, h₂, h₃, h₄⟩ => ⟨h₁, h₂, h₃, h₄⟩,
        fun ⟨h₁, h₂, h₃, h₄⟩ => ⟨h₁, h₂, h₃, h₄⟩⟩⟩

namespace Arrangement
variable {a b : Arrangement} {o : Options}

theorem means_iff : a.Means o ↔ o.progress.Says a.contents :=
  ⟨fun ⟨h₁, h₂, h₃, h₄⟩ => ⟨h₁, h₂, h₃, h₄⟩, fun ⟨h₁, h₂, h₃, h₄⟩ => ⟨h₁, h₂, h₃, h₄⟩⟩

/-- The end of the arguments after what has been read of an arrangement. -/
theorem finish_cases {q : Progress} (hq : ∀ which, q.expected ≠ .value which)
    (hheld : q.Says a.contents) :
    (∃ o, q.finish = .ok o ∧ a.Means o) ∨ q.finish = .error .misuse ∧ ∀ o, ¬ a.Means o := by
  rcases q.finish_cases hq with ⟨o, hfinish, hsame⟩ | ⟨hfinish, hnone⟩
  · exact .inl ⟨o, hfinish, means_iff.2 ((hsame _).1 hheld)⟩
  · refine .inr ⟨hfinish, fun o hmeans => ?_⟩
    have hproject := hheld.project
    rw [hnone] at hproject
    cases hproject.symm.trans hmeans.project

/-- The word behind a separator is the project. -/
theorem read_behind_separator {q : Progress} {last : Option Word} (hq : q.expected = .project)
    (hheld : q.Says a.items) (hseparated : a.separated = some last) :
    (∃ r, readFrom q last.toList = .ok r ∧ r.expected = .project ∧ r.Says a.contents) ∨
    readFrom q last.toList = .error .misuse ∧ ∀ r, ¬ Progress.Says r a.contents := by
  cases last with
  | none =>
    have hcontents : a.contents = a.items := by simp [contents, hseparated]
    exact .inl ⟨q, rfl, hq, hcontents ▸ hheld⟩
  | some value =>
    have hcontents : a.contents = a.items ++ [.project value] := by simp [contents, hseparated]
    have hread : readFrom q (some value).toList = q.operand value := by
      simp only [Option.toList_some, readFrom_cons, Progress.push, hq, readFrom_nil]
      cases q.operand value <;> rfl
    rw [hread, hcontents]
    rcases q.operand_cases value with ⟨text, rfl, hnone, htake⟩ | ⟨htake, hno⟩
    · obtain ⟨hconfiguration, hdirectory, hpreview, hproject⟩ := hheld
      exact .inl ⟨_, htake, hq, by simp [hconfiguration, Item.value?], by simp [hdirectory, Item.value?],
        by simp [hpreview], by simp [hproject, hnone, Item.project?]⟩
    · refine .inr ⟨htake, fun r htells => ?_⟩
      have hall := htells.project
      rw [List.filterMap_append, hheld.project] at hall
      exact hno _ _ hall

/-- The words of an arrangement are taken with all that its items say, and refused if nothing says that. -/
theorem read_cases (h : a.IsLegal) :
    (∃ q, readFrom {} a.words = .ok q ∧ (∀ which, q.expected ≠ .value which) ∧ q.Says a.contents) ∨
    readFrom {} a.words = .error .misuse ∧ ∀ q, ¬ Progress.Says q a.contents := by
  have hbefore : Progress.Says {} [] := ⟨rfl, rfl, rfl, rfl⟩
  rw [words]
  rcases Progress.readFrom_items rfl hbefore h _ with ⟨q, hitems, hq, hheld⟩ | ⟨hitems, hno⟩
  · rw [hitems]
    cases hseparated : a.separated with
    | none =>
      have hcontents : a.contents = a.items := by simp [contents, hseparated]
      exact .inl ⟨q, rfl, by simp [hq], hcontents ▸ hheld⟩
    | some last =>
      have hpush : q.push [dash, dash] = .ok { q with expected := .project } := by
        simp only [Progress.push, hq, Progress.token, Token.ofWord_separator]
      obtain ⟨hconfiguration, hdirectory, hpreview, hproject⟩ := hheld
      rw [readFrom_cons, hpush]
      rcases read_behind_separator (q := { q with expected := .project }) rfl
        ⟨hconfiguration, hdirectory, hpreview, hproject⟩ hseparated with ⟨r, hread, hr, htells⟩ | hno
      · exact .inl ⟨r, hread, by simp [hr], htells⟩
      · exact .inr hno
  · rw [hitems]
    exact .inr ⟨rfl, fun q => hno q _⟩

/-- An arrangement is read as what it means, and refused if it means nothing. -/
theorem parse_cases (h : a.IsLegal) :
    (∃ o, parse a.words = .ok o ∧ a.Means o) ∨
    parse a.words = .error .misuse ∧ ∀ o, ¬ a.Means o := by
  have hparse : parse a.words = (readFrom {} a.words).bind Progress.finish := rfl
  rw [hparse]
  rcases read_cases h with ⟨q, hread, hq, htells⟩ | ⟨hread, hno⟩
  · rw [hread]
    exact finish_cases hq htells
  · rw [hread]
    exact .inr ⟨rfl, fun o hmeans => hno _ (means_iff.1 hmeans)⟩

theorem word_injective : Function.Injective word := by
  intro text text' h
  rw [word_eq_iff, word, Text.Utf8.decode?_encode] at h
  exact String.toList_inj.1 (Option.some.inj h)

theorem eq_of_toList_eq {x y : Option Path}
    (h : (x.map Path.octets).toList = (y.map Path.octets).toList) : x = y := by
  rcases x with - | ⟨⟨octets⟩⟩ <;> rcases y with - | ⟨⟨octets'⟩⟩ <;> simp_all

/-- An arrangement means one thing at most. -/
theorem Means.eq {o' : Options} (h : a.Means o) (h' : a.Means o') : o = o' := by
  have hconfiguration := h.configuration.symm.trans h'.configuration
  have hdirectory := h.schemaDirectory.symm.trans h'.schemaDirectory
  have hpreview := h.preview.symm.trans h'.preview
  have hproject := h.project.symm.trans h'.project
  replace hconfiguration := eq_of_toList_eq hconfiguration
  replace hdirectory := eq_of_toList_eq hdirectory
  rw [List.singleton_inj, word_injective.eq_iff] at hproject
  replace hpreview := (show ∀ b b' : Bool, b.toNat = b'.toNat → b = b' by decide) _ _ hpreview
  cases o
  cases o'
  simp_all

/-- Where at most one value is said, there is no order. -/
theorem eq_toList_of_perm {α : Type} {values values' : List α} {x : Option α}
    (h : values.Perm values') (hone : values' = x.toList) : values = x.toList := by
  subst hone
  cases x with
  | none => exact List.perm_nil.1 h
  | some value => exact List.perm_singleton.1 h

theorem SaysAs.means (h : a.SaysAs b) (hb : b.Means o) : a.Means o where
  configuration := eq_toList_of_perm (h.values _) hb.configuration
  schemaDirectory := eq_toList_of_perm (h.values _) hb.schemaDirectory
  preview := h.preview.trans hb.preview
  project := eq_toList_of_perm (x := some (word o.project)) h.projects hb.project

theorem SaysAs.symm (h : a.SaysAs b) : b.SaysAs a :=
  ⟨fun which => (h.values which).symm, h.preview.symm, h.projects.symm⟩

/-- An arrangement is read as some options exactly if it means them. -/
theorem parse_eq_ok_iff (h : a.IsLegal) (o : Options) : parse a.words = .ok o ↔ a.Means o := by
  rcases parse_cases h with ⟨o', hparse, hmeans⟩ | ⟨hparse, hno⟩
  · rw [hparse]
    constructor
    · rintro ⟨⟩
      exact hmeans
    · intro hmeans'
      rw [hmeans.eq hmeans']
  · rw [hparse]
    exact ⟨nofun, fun hmeans => absurd hmeans (hno o)⟩

/-- Neither order nor form matters. -/
theorem parse_eq_of_saysAs (ha : a.IsLegal) (hb : b.IsLegal) (h : a.SaysAs b) :
    parse a.words = parse b.words := by
  rcases parse_cases ha with ⟨o, hparse, hmeans⟩ | ⟨hparse, hno⟩
  · rw [hparse, (parse_eq_ok_iff hb o).2 (h.symm.means hmeans)]
  · rcases parse_cases hb with ⟨o, -, hmeans⟩ | ⟨hparse', -⟩
    · exact absurd (h.means hmeans) (hno o)
    · rw [hparse, hparse']

end Arrangement

/-! ## Nothing else is read -/

namespace Progress
variable {p q : Progress} {o : Options}

theorem assign_eq_ok {which : Setting} {value : Word} (h : p.assign which value = .ok q) :
    value ≠ [] ∧ q.expected = .anything := by
  cases which <;> simp only [assign] at h <;> split_ifs at h <;> cases h <;> simp_all

theorem operand_eq_ok {value : Word} (h : p.operand value = .ok q) :
    q.project.isSome = true ∧ q.expected = p.expected := by
  rcases p.operand_cases value with ⟨text, -, -, htake⟩ | ⟨htake, -⟩
  · cases htake.symm.trans h
    exact ⟨rfl, rfl⟩
  · cases htake.symm.trans h

theorem long_eq_ok {name : Word} {value : Option Word} (h : p.long name value = .ok q) :
    (∃ which : Setting, name = which.name ∧ p.name which value = .ok q) ∨
      name = word "dry-run" ∧ value = none ∧ q.expected = p.expected := by
  unfold long at h
  split_ifs at h with hconfiguration hdirectory hvalue hpreview
  · exact .inl ⟨.configuration, hconfiguration, h⟩
  · exact .inl ⟨.schemaDirectory, hdirectory, h⟩
  · cases h
    exact .inr ⟨hpreview, by simpa using hvalue, rfl⟩

theorem short_eq_ok {letter : UInt8} {attached : Word} (h : p.short letter attached = .ok q) :
    letter = 0x63 ∧ p.name .configuration (attachedValue? attached) = .ok q := by
  unfold short at h
  split_ifs at h with hletter
  exact ⟨List.singleton_inj.1 (hletter.trans (by decide)), h⟩

theorem push_of_project (hp : p.expected = .project) (w : Word) : p.push w = p.operand w := by
  simp only [push, hp]

/-- A setting that waits for its value is followed by one, if by anything. -/
theorem value_of_readFrom {which : Setting} {words : List Word} (hp : p.expected = .value which)
    (h : readFrom p words = .ok q) :
    words = [] ∧ q = p ∨
    ∃ value rest r, words = value :: rest ∧ value ≠ [] ∧ ¬ LooksLikeOption value ∧
      r.expected = .anything ∧ readFrom r rest = .ok q := by
  cases words with
  | nil => exact .inl ⟨rfl, (Except.ok.inj h).symm⟩
  | cons value rest =>
    rw [readFrom_cons] at h
    simp only [push, hp] at h
    split_ifs at h with hplain
    · cases hassign : p.assign which value with
      | error stop => rw [hassign] at h; cases h
      | ok r =>
        rw [hassign] at h
        obtain ⟨hne, hr⟩ := assign_eq_ok hassign
        exact .inr ⟨value, rest, r, rfl, hne, (Token.ofWord_eq_plain_iff value).1 hplain, hr, h⟩
    · cases h

/-- Behind the separator stands one word at most. -/
theorem words_of_project {words : List Word} (hp : p.expected = .project)
    (h : readFrom p words = .ok q) :
    q.expected = .project ∧ ∃ last : Option Word, words = last.toList := by
  match words with
  | [] =>
    cases h
    exact ⟨hp, none, rfl⟩
  | [value] =>
    rw [readFrom_cons, push_of_project hp] at h
    cases hvalue : p.operand value with
    | error stop => rw [hvalue] at h; cases h
    | ok r =>
      rw [hvalue] at h
      cases h
      exact ⟨(operand_eq_ok hvalue).2.trans hp, some value, rfl⟩
  | first :: second :: rest =>
    rw [readFrom_cons, push_of_project hp] at h
    cases hfirst : p.operand first with
    | error stop => rw [hfirst] at h; cases h
    | ok r =>
      obtain ⟨hproject, hr⟩ := operand_eq_ok hfirst
      have hsecond : r.operand second = .error .misuse := by simp [operand, hproject]
      rw [hfirst] at h
      change readFrom r (second :: rest) = .ok q at h
      rw [readFrom_cons, push_of_project (hr.trans hp), hsecond] at h
      cases h

end Progress

/-- What a word that is taken begins: an item of its own, what stands behind the separator, or a setting that
still owes its value. -/
inductive Begins (w : Word) (q : Progress) : Prop
  | item (item : Item) : item.IsLegal → item.words = [w] → q.expected = .anything → Begins w q
  | separator : w = [dash, dash] → q.expected = .project → Begins w q
  | setting (which : Setting) (form : Form) : (∀ value, form.words which value = [w, value]) →
      (∀ value, ¬ LooksLikeOption value → form.Fits which value) → q.expected = .value which →
      Begins w q

namespace Progress
variable {p q : Progress}

theorem begins_of_long {name : Word} {value : Option Word} (hp : p.expected = .anything)
    (h : p.long name value = .ok q) : Begins (dash :: dash :: (name ++ (value.map (equals :: ·)).getD [])) q := by
  rcases long_eq_ok h with ⟨which, rfl, hname⟩ | ⟨rfl, rfl, hq⟩
  · cases value with
    | none =>
      cases hname
      exact .setting which .apart (fun value => by simp [Form.words]) (fun _ => id) rfl
    | some value =>
      obtain ⟨hne, hq⟩ := assign_eq_ok hname
      exact .item (.setting which .joined value) ⟨hne, trivial⟩ rfl hq
  · exact .item .preview trivial rfl (hq.trans hp)

theorem begins_of_short {letter : UInt8} {attached : Word} (h : p.short letter attached = .ok q) :
    Begins (dash :: letter :: attached) q := by
  obtain ⟨rfl, hname⟩ := short_eq_ok h
  cases attached with
  | nil =>
    cases hname
    exact .setting .configuration .letterApart (fun _ => rfl) (fun _ hplain => ⟨rfl, hplain⟩) rfl
  | cons second others =>
    by_cases hequals : second = equals
    · subst hequals
      change p.assign .configuration others = .ok q at hname
      obtain ⟨hne, hq⟩ := assign_eq_ok hname
      exact .item (.setting .configuration .letterEquals others) ⟨hne, rfl⟩ rfl hq
    · rw [attachedValue?, if_neg hequals] at hname
      change p.assign .configuration (second :: others) = .ok q at hname
      obtain ⟨hne, hq⟩ := assign_eq_ok hname
      exact .item (.setting .configuration .letterJoined (second :: others))
        ⟨hne, rfl, by simpa using hequals⟩ rfl hq

theorem begins_of_push {w : Word} (hp : p.expected = .anything) (h : p.push w = .ok q) : Begins w q := by
  simp only [push, hp, token] at h
  rcases Token.ofWord_cases w with ⟨htoken, hplain⟩ | ⟨htoken, rfl⟩ | ⟨name, value, htoken, rfl⟩ |
    ⟨letter, attached, htoken, rfl⟩
  · rw [htoken] at h
    exact .item (.project w) hplain rfl ((operand_eq_ok h).2.trans hp)
  · rw [htoken] at h
    cases h
    exact .separator rfl rfl
  · rw [htoken] at h
    exact begins_of_long hp h
  · rw [htoken] at h
    exact begins_of_short h

end Progress

/-- A word is the name or the letter of a setting, without a value. -/
def Setting.IsNamedBy (which : Setting) (w : Word) : Prop :=
  w = dash :: dash :: which.name ∨ ∃ letter, which.letter? = some letter ∧ w = [dash, letter]

theorem Form.isNamedBy {which : Setting} {form : Form} {w : Word}
    (hwords : ∀ value, form.words which value = [w, value])
    (hfits : ∀ value, ¬ LooksLikeOption value → form.Fits which value) : which.IsNamedBy w := by
  have hempty := hwords []
  cases form with
  | apart => exact .inl (List.cons.inj hempty).1.symm
  | letterApart =>
    obtain ⟨letter, hletter⟩ := Option.isSome_iff_exists.1 (hfits [] nofun).1
    rw [Form.words, hletter] at hempty
    exact .inr ⟨letter, hletter, (List.cons.inj hempty).1.symm⟩
  | joined | letterEquals | letterJoined => cases hempty

/-- What words come to that are taken one after another: an arrangement, or items and a setting that still
waits for its value. -/
inductive Taken (q : Progress) : List Word → Prop
  | whole (a : Arrangement) : a.IsLegal → (∀ which, q.expected ≠ .value which) → Taken q a.words
  | waiting (items : List Item) (which : Setting) (last : Word) : (∀ item ∈ items, item.IsLegal) →
      which.IsNamedBy last → q.expected = .value which →
      Taken q (items.flatMap Item.words ++ [last])

theorem Taken.cons {q : Progress} {item : Item} {rest : List Word} (hitem : item.IsLegal)
    (h : Taken q rest) : Taken q (item.words ++ rest) := by
  cases h with
  | whole a ha hq =>
    have hall := Taken.whole ⟨item :: a.items, a.separated⟩ (List.forall_mem_cons.2 ⟨hitem, ha⟩) hq
    simpa [Arrangement.words] using hall
  | waiting items which last hitems hlast hq =>
    have hall := Taken.waiting (item :: items) which last (List.forall_mem_cons.2 ⟨hitem, hitems⟩)
      hlast hq
    simpa using hall

theorem taken_of_readFrom {p q : Progress} (hp : p.expected = .anything) {words : List Word}
    (h : readFrom p words = .ok q) : Taken q words := by
  -- One word or two are read before the rest is of this form again.
  induction hn : words.length using Nat.strongRecOn generalizing p words with
  | _ n ih =>
    subst hn
    cases words with
    | nil =>
      cases h
      exact .whole ⟨[], none⟩ nofun (by simp [hp])
    | cons w rest =>
      rw [readFrom_cons] at h
      cases hpush : p.push w with
      | error stop =>
        rw [hpush] at h
        cases h
      | ok r =>
        rw [hpush] at h
        change readFrom r rest = .ok q at h
        cases Progress.begins_of_push hp hpush with
        | item item hitem hw hr =>
          have hrest := ih _ (Nat.lt_succ_self _) hr h rfl
          simpa [hw] using hrest.cons hitem
        | separator hw hr =>
          obtain ⟨hq, last, rfl⟩ := Progress.words_of_project hr h
          rw [hw]
          exact .whole ⟨[], some last⟩ nofun (by simp [hq])
        | setting which form hwords hfits hr =>
          rcases Progress.value_of_readFrom hr h with ⟨rfl, rfl⟩ |
            ⟨value, more, r', rfl, hne, hplain, hr', hmore⟩
          · exact .waiting [] which w nofun (Form.isNamedBy hwords hfits) hr
          · have hrest := ih _ (Nat.lt_succ_of_lt (Nat.lt_succ_self _)) hr' hmore rfl
            have hitem : (Item.setting which form value).IsLegal := ⟨hne, hfits value hplain⟩
            simpa [Item.words, hwords] using hrest.cons hitem

/-- Words that are read as options are an arrangement. -/
theorem exists_arrangement {p : Progress} {o : Options} (hp : p.expected = .anything)
    {words : List Word} (h : (readFrom p words).bind Progress.finish = .ok o) :
    ∃ a : Arrangement, a.IsLegal ∧ a.words = words := by
  cases hread : readFrom p words with
  | error stop =>
    rw [hread] at h
    cases h
  | ok q =>
    rw [hread] at h
    cases taken_of_readFrom hp hread with
    | whole a ha => exact ⟨a, ha, rfl⟩
    | waiting items which last _ _ hq =>
      simp only [Except.bind, Progress.finish, hq] at h
      cases h

/-- Arguments are read as some options exactly if they are an arrangement that means them; two arrangements
that say the same are read alike, whatever their order and their forms. -/
theorem parse_arrangement (words : List Word) (o : Options) :
    (parse words = .ok o ↔ ∃ a : Arrangement, a.IsLegal ∧ a.words = words ∧ a.Means o) ∧
    ∀ a b : Arrangement, a.IsLegal → b.IsLegal → a.SaysAs b → parse a.words = parse b.words := by
  refine ⟨⟨fun h => ?_, ?_⟩, fun a b ha hb h => Arrangement.parse_eq_of_saysAs ha hb h⟩
  · obtain ⟨a, ha, rfl⟩ := exists_arrangement rfl h
    exact ⟨a, ha, rfl, (Arrangement.parse_eq_ok_iff ha o).1 h⟩
  · rintro ⟨a, ha, rfl, hmeans⟩
    exact (Arrangement.parse_eq_ok_iff ha o).2 hmeans

/-- Items in two orders and in different forms; behind the separator a project may look like an option. -/
theorem parse_arrangement_reordered :
    let a : Arrangement :=
      { items := [.setting .configuration .letterEquals (word "=x"), .preview,
          .setting .schemaDirectory .apart (word "-")]
        separated := some (some (word "--dry-run")) }
    let b : Arrangement :=
      { items := [.setting .schemaDirectory .joined (word "-"), .preview,
          .setting .configuration .joined (word "=x")]
        separated := some (some (word "--dry-run")) }
    a.IsLegal ∧ b.IsLegal ∧ a.SaysAs b ∧ parse a.words = parse b.words ∧
      parse (["-c==x", "--dry-run", "--proto-dir", "-", "--", "--dry-run"].map word) =
        .ok ⟨some (Path.ofString "=x"), some (Path.ofString "-"), true, "--dry-run"⟩ := by
  intro a b
  have ha : a.IsLegal := by decide
  have hb : b.IsLegal := by decide
  have hheld : a.SaysAs b := by
    refine ⟨fun which => ?_, by decide, by decide⟩
    cases which <;> decide
  refine ⟨ha, hb, hheld, (parse_arrangement a.words default).2 a b ha hb hheld, ?_⟩
  exact (parse_arrangement _ _).1.2 ⟨a, ha, by decide, by decide, by decide, by decide, by decide⟩

end Provisioning.Options
