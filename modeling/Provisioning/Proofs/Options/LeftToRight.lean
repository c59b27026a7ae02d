import Provisioning.Handover
import Provisioning.Program
import Provisioning.Proofs.Options.Grammar

/-! # Arguments are decided from left to right

Help, the version and an error end the reading where they stand, so no word behind them makes a difference.
The one error that stands nowhere is that the words end too early: everything fits so far, but no project is
named yet or a setting waits for its value. Such words, and no others, can still become options. -/
namespace Provisioning.Options

/-! ## What the end of the words leaves open -/

/-- Items that fit together: each setting, the flag and the project stand there once at most, and the project
is text. -/
structure FitTogether (items : List Item) : Prop where
  values : ∀ which, ∃ value : Option Word, items.filterMap (Item.value? which) = value.toList
  preview : items.count .preview ≤ 1
  project : ∃ text : Option String, items.filterMap Item.project? = (text.map word).toList

/-- The words end too early: all items fit together, but no project is among them, or the last word is the
name of a setting that is not given before, and waits for its value. -/
inductive EndEarly : List Word → Prop
  | project {a : Arrangement} : a.IsLegal → FitTogether a.contents → a.projects = [] → EndEarly a.words
  | value {items : List Item} {which : Setting} {last : Word} : (∀ item ∈ items, item.IsLegal) →
      FitTogether items → items.filterMap (Item.value? which) = [] → which.IsNamedBy last →
      EndEarly (items.flatMap Item.words ++ [last])

/-- Items fit together exactly if something can be read that says as much as they do. -/
theorem fitTogether_iff (items : List Item) : FitTogether items ↔ ∃ p : Progress, p.Says items := by
  constructor
  · rintro ⟨hvalues, hpreview, text, hproject⟩
    obtain ⟨configuration, hconfiguration⟩ := hvalues .configuration
    obtain ⟨directory, hdirectory⟩ := hvalues .schemaDirectory
    have hback (value : Option Word) : (value.map Path.mk).map Path.octets = value := by
      cases value <;> rfl
    refine ⟨{ configuration := configuration.map Path.mk
              schemaDirectory := directory.map Path.mk
              preview := decide (items.count .preview = 1)
              project := text }, by rw [hconfiguration, hback], by rw [hdirectory, hback], ?_, hproject⟩
    rcases Nat.le_one_iff_eq_zero_or_eq_one.1 hpreview with hcount | hcount <;> simp [hcount]
  · rintro ⟨p, h⟩
    refine ⟨fun which => ?_, ?_, p.project, h.project⟩
    · cases which with
      | configuration => exact ⟨_, h.configuration⟩
      | schemaDirectory => exact ⟨_, h.schemaDirectory⟩
    · rw [h.preview]
      exact Bool.toNat_le p.preview

namespace Progress
variable {p q : Progress} {which : Setting} {items : List Item}

/-- What has been read for a setting. -/
def given? (p : Progress) : Setting → Option Path
  | .configuration => p.configuration
  | .schemaDirectory => p.schemaDirectory

theorem Says.given? (h : p.Says items) (which : Setting) :
    items.filterMap (Item.value? which) = ((p.given? which).map Path.octets).toList := by
  cases which with
  | configuration => exact h.configuration
  | schemaDirectory => exact h.schemaDirectory

/-- A value is taken for a setting that has none yet. -/
theorem exists_assign {value : Word} (hvalue : value ≠ []) (h : p.given? which = none) :
    ∃ q, p.assign which value = .ok q := by
  cases which <;> simp_all [Progress.given?, assign]

theorem assign_given (value : Word) (h : p.given? which ≠ none) :
    p.assign which value = .error .misuse := by
  have hsome := Option.isSome_iff_ne_none.2 h
  cases which <;> simp_all [Progress.given?, assign]

theorem push_isNamedBy (hp : p.expected = .anything) {last : Word} (h : which.IsNamedBy last) :
    p.push last = .ok { p with expected := .value which } := by
  rcases h with rfl | ⟨letter, hletter, rfl⟩
  · exact push_name hp which
  · rw [push_letter hp hletter]
    rfl

/-- Where no value is owed, a word that does not look like an option is a project. -/
theorem push_operand (hp : ∀ which, p.expected ≠ .value which) {w : Word} (hw : ¬ LooksLikeOption w) :
    p.push w = p.operand w := by
  cases hexpected : p.expected with
  | anything => simp only [push, hexpected, token, (Token.ofWord_eq_plain_iff w).2 hw]
  | value which => exact absurd hexpected (hp which)
  | project => exact push_of_project hexpected w

theorem finish_eq_error {stop : Stop} (h : p.finish = .error stop) : stop = .misuse := by
  unfold finish at h
  split at h <;> cases h <;> rfl

/-- Where no value is owed, nothing or a project is enough to complete what has been read. -/
theorem exists_completion (hp : ∀ which, p.expected ≠ .value which) :
    ∃ more o, (readFrom p more).bind finish = .ok o := by
  rcases finish_cases hp with ⟨o, hfinish, -⟩ | ⟨-, hnone⟩
  · exact ⟨[], o, hfinish⟩
  · rcases p.operand_cases (word "") with ⟨text, -, -, htake⟩ | ⟨-, hno⟩
    · have hpush : p.push (word "") = .ok { p with project := some text } := by
        rw [push_operand hp (by decide), htake]
      rcases finish_cases (p := { p with project := some text }) hp with ⟨o, hfinish, -⟩ | ⟨-, hnone⟩
      · refine ⟨[word ""], o, ?_⟩
        rw [readFrom_cons, hpush]
        exact hfinish
      · cases hnone
    · exact absurd (by rw [hnone]; rfl) (hno (some "") [])

/-- A setting that waits for its value gets one, if it has none yet. -/
theorem exists_completion_of_waiting (hp : p.expected = .value which) (h : p.given? which = none) :
    ∃ more o, (readFrom p more).bind finish = .ok o := by
  have hplain : ¬ LooksLikeOption [dash] := by decide
  obtain ⟨q, hassign⟩ := exists_assign (List.cons_ne_nil dash []) h
  obtain ⟨more, o, hmore⟩ := exists_completion (p := q) (by simp [(assign_eq_ok hassign).2])
  refine ⟨[dash] :: more, o, ?_⟩
  rw [readFrom_cons, push_value hp hplain, hassign]
  exact hmore

/-- A setting that has a value and waits for another one never gets it. -/
theorem finish_of_waiting_again (hp : p.expected = .value which) (h : p.given? which ≠ none)
    (more : List Word) : (readFrom p more).bind finish = .error .misuse := by
  cases more with
  | nil => simp only [readFrom_nil, Except.bind, finish, hp]
  | cons w rest =>
    have hpush : p.push w = .error .misuse := by
      simp only [push, hp, assign_given w h, ite_self]
    rw [readFrom_cons, hpush]
    rfl

end Progress

/-! ## Errors that stand, and the one at the end -/

theorem parse_eq (words : List Word) : parse words = (readFrom {} words).bind Progress.finish := rfl

/-- Items that fit together are taken, and a name behind them waits for its value. -/
theorem readFrom_waiting {items : List Item} {which : Setting} {last : Word}
    (hitems : ∀ item ∈ items, item.IsLegal) (hlast : which.IsNamedBy last) :
    (∃ q, readFrom {} (items.flatMap Item.words ++ [last]) = .ok q ∧ q.expected = .value which ∧
      q.Says items) ∨
    readFrom {} (items.flatMap Item.words ++ [last]) = .error .misuse ∧ ¬ FitTogether items := by
  have hbefore : Progress.Says {} [] := ⟨rfl, rfl, rfl, rfl⟩
  rcases Progress.readFrom_items rfl hbefore hitems [last] with ⟨q, hread, hq, htells⟩ | ⟨hread, hno⟩
  · refine .inl ⟨{ q with expected := .value which }, ?_, rfl,
      ⟨htells.configuration, htells.schemaDirectory, htells.preview, htells.project⟩⟩
    rw [hread, readFrom_cons, Progress.push_isNamedBy hq hlast]
    rfl
  · refine .inr ⟨hread, fun hfit => ?_⟩
    obtain ⟨p, htells⟩ := (fitTogether_iff items).1 hfit
    exact hno p [] (by simpa using htells)

/-- Words that end too early are all taken, and more words make options of them. -/
theorem EndEarly.exists_read {words : List Word} (h : EndEarly words) :
    ∃ q, readFrom {} words = .ok q ∧ q.finish = .error .misuse ∧
      ∃ more o, (readFrom q more).bind Progress.finish = .ok o := by
  cases h with
  | @project a ha hfit hnone =>
    rcases Arrangement.read_cases ha with ⟨q, hread, hq, htells⟩ | ⟨-, hno⟩
    · refine ⟨q, hread, ?_, Progress.exists_completion hq⟩
      rcases Progress.finish_cases hq with ⟨o, -, hsame⟩ | ⟨hfinish, -⟩
      · have hproject := ((hsame _).1 htells).project
        cases hnone.symm.trans hproject
      · exact hfinish
    · obtain ⟨p, htells⟩ := (fitTogether_iff _).1 hfit
      exact absurd htells (hno p)
  | @value items which last hitems hfit hnone hlast =>
    rcases readFrom_waiting hitems hlast with ⟨q, hread, hq, htells⟩ | ⟨-, hno⟩
    · have hgiven : q.given? which = none := by
        have hvalues := htells.given? which
        rw [hnone] at hvalues
        simpa using hvalues.symm
      refine ⟨q, hread, ?_, Progress.exists_completion_of_waiting hq hgiven⟩
      simp only [Progress.finish, hq]
    · exact absurd hfit hno

/-- Words that are taken but are no options end too early, or wait for a second value of a setting. -/
theorem endEarly_or_decided {words : List Word} {q : Progress} (hread : readFrom {} words = .ok q)
    (hfinish : q.finish = .error .misuse) :
    EndEarly words ∨ ∀ more, (readFrom q more).bind Progress.finish = .error .misuse := by
  cases taken_of_readFrom rfl hread with
  | whole a ha hq =>
    rcases Arrangement.read_cases ha with ⟨r, hread', -, htells⟩ | ⟨hno, -⟩
    · cases hread.symm.trans hread'
      rcases Progress.finish_cases hq with ⟨o, hok, -⟩ | ⟨-, hnone⟩
      · cases hok.symm.trans hfinish
      · refine .inl (.project ha ((fitTogether_iff _).2 ⟨q, htells⟩) ?_)
        rw [Arrangement.projects, htells.project, hnone]
        rfl
    · cases hread.symm.trans hno
  | waiting items which last hitems hlast hq =>
    rcases readFrom_waiting hitems hlast with ⟨r, hread', -, htells⟩ | ⟨hno, -⟩
    · cases hread.symm.trans hread'
      by_cases hgiven : q.given? which = none
      · refine .inl (.value hitems ((fitTogether_iff _).2 ⟨q, htells⟩) ?_ hlast)
        rw [htells.given? which, hgiven]
        rfl
      · exact .inr (Progress.finish_of_waiting_again hq hgiven)
    · cases hread.symm.trans hno

/-- What ends the reading of some words ends it also with more words behind them, unless it is their end. -/
theorem parse_append_of_error {words : List Word} {stop : Stop} (h : parse words = .error stop) :
    (∀ more, parse (words ++ more) = .error stop) ∨ stop = .misuse ∧ EndEarly words := by
  rw [parse_eq] at h
  simp only [parse_eq, readFrom_append]
  cases hread : readFrom {} words with
  | error other =>
    rw [hread] at h
    cases h
    exact .inl fun _ => rfl
  | ok q =>
    rw [hread] at h
    obtain rfl := Progress.finish_eq_error h
    rcases endEarly_or_decided hread h with hearly | hdecided
    · exact .inr ⟨rfl, hearly⟩
    · exact .inl hdecided

/-- Help, the version and misuse are found from left to right: words behind those that come to one of them
change nothing. Only misuse that lies in the end of the words may turn into something else, and more words can
then make options of them. A call that comes to help or the version does nothing else. -/
theorem parse_left_to_right (words : List Word) :
    (parse words = .error .help → ∀ more, parse (words ++ more) = .error .help) ∧
    (parse words = .error .version → ∀ more, parse (words ++ more) = .error .version) ∧
    (parse words = .error .misuse → ¬ EndEarly words →
      ∀ more, parse (words ++ more) = .error .misuse) ∧
    (EndEarly words → parse words = .error .misuse ∧ ∃ more o, parse (words ++ more) = .ok o) ∧
    ∀ (more : List Word) (σ : Type) (m : Machine σ) (s : σ) (called : Path),
      parse words = .error .help ∨ parse words = .error .version →
      (Program.call m s called (words ++ more)).ending.exitCode = 0 ∧
      (Program.call m s called (words ++ more)).calls = [] ∧
      (Program.call m s called (words ++ more)).events = [] ∧
      (Program.call m s called (words ++ more)).final = s := by
  have hhelp (h : parse words = .error .help) : ∀ more, parse (words ++ more) = .error .help :=
    (parse_append_of_error h).resolve_right fun hearly => nomatch hearly.1
  have hversion (h : parse words = .error .version) :
      ∀ more, parse (words ++ more) = .error .version :=
    (parse_append_of_error h).resolve_right fun hearly => nomatch hearly.1
  refine ⟨hhelp, hversion, fun h hno => ?_, fun hearly => ?_, ?_⟩
  · exact (parse_append_of_error h).resolve_right fun hearly => hno hearly.2
  · obtain ⟨q, hread, hfinish, more, o, hmore⟩ := hearly.exists_read
    refine ⟨by rw [parse_eq, hread]; exact hfinish, more, o, ?_⟩
    rw [parse_eq, readFrom_append, hread]
    exact hmore
  · rintro more σ m s called (h | h)
    · rw [Program.call, hhelp h more]
      exact ⟨rfl, rfl, rfl, rfl⟩
    · rw [Program.call, hversion h more]
      exact ⟨rfl, rfl, rfl, rfl⟩

/-- Letters behind the one for help, a flag given twice, and a setting without its value; the machine has not
even a search path. -/
theorem parse_left_to_right_groups :
    parse (["--dry-run", "-hV"].map word ++ ["-c", "--bogus"].map word) = .error .help ∧
      (Program.call (Handover.machine [] none none) ⟨{}, [], none⟩ (Path.ofString programName)
        (["--dry-run", "-hV"].map word ++ ["-c", "--bogus"].map word)).ending.exitCode = 0 ∧
      parse (["--version"].map word ++ ["--version=1"].map word) = .error .version ∧
      parse (["--dry-run", "--dry-run"].map word ++ ["--help"].map word) = .error .misuse ∧
      ∃ more o, parse (["swarm-dev", "-c"].map word ++ more) = .ok o := by
  have hhelp : parse (["--dry-run", "-hV"].map word) = .error .help := by decide
  have hversion : parse (["--version"].map word) = .error .version := by decide
  have htwice : parse (["--dry-run", "--dry-run"].map word) = .error .misuse := by decide
  have hnot : ¬ EndEarly (["--dry-run", "--dry-run"].map word) := by
    intro hearly
    obtain ⟨q, hread, -⟩ := hearly.exists_read
    have hstop : readFrom {} (["--dry-run", "--dry-run"].map word) = .error .misuse := by decide
    cases hstop.symm.trans hread
  have hearly : EndEarly (["swarm-dev", "-c"].map word) := by
    have hfit : FitTogether [.project (word "swarm-dev")] :=
      ⟨fun which => ⟨none, by cases which <;> rfl⟩, by decide, some "swarm-dev", rfl⟩
    exact @EndEarly.value [.project (word "swarm-dev")] .configuration _ (by decide) hfit rfl
      (.inr ⟨0x63, rfl, by decide⟩)
  exact ⟨(parse_left_to_right _).1 hhelp _, ((parse_left_to_right _).2.2.2.2 _ _ _ _ _ (.inl hhelp)).1,
    (parse_left_to_right _).2.1 hversion _, (parse_left_to_right _).2.2.1 htwice hnot _,
    ((parse_left_to_right _).2.2.2.1 hearly).2⟩

end Provisioning.Options
