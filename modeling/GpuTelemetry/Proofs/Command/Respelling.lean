import Mathlib.Data.List.TakeDrop
import Mathlib.Data.List.TakeWhile
import GpuTelemetry.Proofs.Command.Options
import GpuTelemetry.Proofs.Numeral

/-!
# Arguments with numerals in another spelling

A numeral among the arguments of a command may be replaced by another one for the same integer, in
one place or in several (`Respelled`): wherever an accepted command line has it, as an index or as
the text of an option, it is read as that integer and as nothing else. The other numeral has to be
plain, as one with a minus sign may be taken for an option that is unknown.

Both readings are followed stage by stage. The numeral that is replaced may itself be taken for an
unknown option, but then the command line is not accepted (`kept_of_unknown`).

Main statement: `options_respelled`.
-/

namespace GpuTelemetry.Command

/-- Texts some of which, all equal to one text, have been replaced by another. -/
inductive Respelled (old new : String) : List String → List String → Prop
  | nil : Respelled old new [] []
  | same (text : String) {texts texts' : List String} (rest : Respelled old new texts texts') :
      Respelled old new (text :: texts) (text :: texts')
  | other {texts texts' : List String} (rest : Respelled old new texts texts') :
      Respelled old new (old :: texts) (new :: texts')

variable {old new : String}

namespace Respelled

theorem refl (texts : List String) : Respelled old new texts texts := by
  induction texts with
  | nil => exact .nil
  | cons text rest ih => exact .same text ih

theorem append {texts texts' more more' : List String} (one : Respelled old new texts texts')
    (two : Respelled old new more more') : Respelled old new (texts ++ more) (texts' ++ more') := by
  induction one with
  | nil => exact two
  | same text rest ih => exact .same text ih
  | other rest ih => exact .other ih

end Respelled

/-! ## Sorting a numeral -/

variable {flags : List Flag} {text : String} {i : Int}

/-- No option is spelled as a numeral, and no format is called one. -/
theorem read_of_spelling (flag : Flag) : ∀ spelling ∈ flag.spellings,
    Numeral.read spelling = none := by
  cases flag <;> decide

theorem flagOf?_of_numeral (read : Numeral.read text = some i) : flagOf? flags text = none := by
  unfold flagOf?
  rw [List.find?_eq_none]
  intro flag _ listed
  have none := read_of_spelling flag text (List.contains_iff_mem.mp listed)
  cases none.symm.trans read

theorem ofWord?_of_numeral (read : Numeral.read text = some i) : Format.ofWord? text = none := by
  unfold Format.ofWord?
  have words : ∀ format ∈ [Format.line, Format.document], Numeral.read format.word = none := by
    decide
  rw [List.find?_eq_none]
  intro format listed same
  have none := words format listed
  rw [eq_of_beq same] at none
  cases none.symm.trans read

theorem ne_separator_of_numeral (read : Numeral.read text = some i) : text ≠ "--" := by
  rintro rfl
  cases (show Numeral.read "--" = none by decide).symm.trans read

/-- A numeral is no option. If it is not plain, it is taken for an unknown one. -/
theorem sortWord_of_numeral (read : Numeral.read text = some i) (flags : List Flag) :
    sortWord flags text = .ok .plain ∨ sortWord flags text = .ok .unknown := by
  have denotes := Numeral.ofChars?_eq_some_iff.mp read
  unfold sortWord
  split
  · next c rest chars =>
      rw [chars] at denotes
      obtain ⟨d, e, more, same, digit⟩ := denotes.digit_of_minus
      cases same
      rw [flagOf?_of_numeral read]
      -- Neither an equals sign nor a second dash, so only the first two characters could name an
      -- option, and they are a numeral themselves.
      have whole : splitAttached ('-' :: c :: rest) = ('-' :: c :: rest, none) := by
        have unequal : '=' ∉ '-' :: c :: rest :=
          denotes.notMem (by decide) (by decide) ⟨by decide, by decide, by decide⟩
        have all : ∀ e ∈ '-' :: c :: rest, decide (e ≠ '=') = true := fun e member => by
          rw [decide_eq_true_iff]
          rintro rfl
          exact unequal member
        unfold splitAttached
        rw [List.span_eq_takeWhile_dropWhile, List.takeWhile_eq_self_iff.mpr all,
          List.dropWhile_eq_nil_iff.mpr all]
      have single : "--".toList.isPrefixOf ('-' :: c :: rest) = false := by
        have apart : c ≠ '-' := Numeral.ne_of_digit digit Numeral.digit?_mark.1
        simp [List.isPrefixOf, apart.symm]
      have tiny : Numeral.read (String.ofList ['-', c]) = some (-(e : Int)) := by
        unfold Numeral.read
        rw [String.toList_ofList, Numeral.ofChars?_eq_some_iff]
        exact ⟨[], ['-'], [c], [], [e], rfl, nofun, nofun, .last digit, Nat.le_of_ble_eq_true rfl,
          .inl ⟨rfl, by simp [Numeral.ofDigits]⟩⟩
      have short : flagOf? flags (String.ofList (('-' :: c :: rest).take 2)) = none :=
        flagOf?_of_numeral tiny
      unfold sortDashed
      rw [whole, single, short]
      show Except.ok (sortDashed.leftOver ('-' :: c :: rest)) = _ ∨
        Except.ok (sortDashed.leftOver ('-' :: c :: rest)) = _
      unfold sortDashed.leftOver
      split
      · exact .inl rfl
      · exact .inr rfl
  · exact .inl rfl

/-- Two numerals for one integer, of which the second is plain. -/
structure Synonyms (flags : List Flag) (i : Int) (old new : String) : Prop where
  first : Numeral.read old = some i
  second : Numeral.read new = some i
  plain : sortWord flags new = .ok .plain

variable (synonyms : Synonyms flags i old new)
include synonyms

/-- Sorted arguments some of which, all plain, have been replaced. -/
inductive RespelledWords (old new : String) : List (String × Word) → List (String × Word) → Prop
  | nil : RespelledWords old new [] []
  | same (word : String × Word) {words words' : List (String × Word)}
      (rest : RespelledWords old new words words') :
      RespelledWords old new (word :: words) (word :: words')
  | other {words words' : List (String × Word)} (rest : RespelledWords old new words words') :
      RespelledWords old new ((old, .plain) :: words) ((new, .plain) :: words')

omit synonyms in
theorem RespelledWords.of_plain {texts texts' : List String}
    (respelled : Respelled old new texts texts') :
    RespelledWords old new (texts.map (·, .plain)) (texts'.map (·, .plain)) := by
  induction respelled with
  | nil => exact .nil
  | same text rest ih => exact .same _ ih
  | other rest ih => exact .other ih

/-- The numerals are sorted alike, unless the first of them is taken for an unknown option. -/
theorem sortWords_respelled {args args' : List String} {words : List (String × Word)}
    (respelled : Respelled old new args args') (sorted : sortWords flags args = .ok words) :
    (old, .unknown) ∈ words ∨
      ∃ words', sortWords flags args' = .ok words' ∧ RespelledWords old new words words' := by
  induction respelled generalizing words with
  | nil => exact .inr ⟨words, sorted, by cases sorted; exact .nil⟩
  | @same text texts texts' rest ih =>
      unfold sortWords at sorted ⊢
      split at sorted
      · next separator =>
          cases sorted
          rw [if_pos separator]
          exact .inr ⟨_, rfl, .same _ (.of_plain rest)⟩
      · next other =>
          obtain ⟨word, first, sorted⟩ := ok_of_bind sorted
          obtain ⟨behind, others, sorted⟩ := ok_of_bind sorted
          cases sorted
          rcases ih others with unknown | ⟨behind', others', alike⟩
          · exact .inl (List.mem_cons_of_mem _ unknown)
          · rw [if_neg other, first, others']
            exact .inr ⟨_, rfl, .same _ alike⟩
  | @other texts texts' rest ih =>
      unfold sortWords at sorted ⊢
      rw [if_neg (ne_separator_of_numeral synonyms.first)] at sorted
      obtain ⟨word, first, sorted⟩ := ok_of_bind sorted
      obtain ⟨behind, others, sorted⟩ := ok_of_bind sorted
      cases sorted
      -- A minus sign may make a numeral look like an option, but not like a known one.
      rcases sortWord_of_numeral synonyms.first flags with plain | unknown
      · cases plain.symm.trans first
        rcases ih others with unknown | ⟨behind', others', alike⟩
        · exact .inl (List.mem_cons_of_mem _ unknown)
        · rw [if_neg (ne_separator_of_numeral synonyms.second), synonyms.plain, others']
          exact .inr ⟨_, rfl, .other alike⟩
      · cases unknown.symm.trans first
        exact .inl List.mem_cons_self

/-! ## Taking options -/

/-- The options with other indices. -/
def Options.withIndices (indices : List String) (o : Options) : Options := { o with indices }

omit synonyms in
/-- No option looks at the indices. -/
theorem commutes_withIndices (indices : List String) : Commutes (Options.withIndices indices) where
  switch flag o := by cases flag <;> rfl
  text flag given o := by
    unfold takeText
    split
    · cases flag <;> rfl
    · cases flag with
      | samples => cases number .samples 1 given <;> rfl
      | delay => cases number .delay 0 given <;> rfl
      | format => cases Format.ofWord? given <;> rfl
      | help => rfl
      | verbose => rfl

omit synonyms in
/-- So none of them changes the indices. -/
theorem indices_of_takeOption {flag : Flag} {short : Bool} {attached? : Option (List Char)}
    {following? : Option String} {o next : Options} {taken : Bool}
    (took : takeOption flags flag short attached? following? o = .ok (next, taken)) :
    next.indices = o.indices := by
  have commutes : takeOption flags flag short attached? following? (o.withIndices o.indices) = _ :=
    (commutes_withIndices o.indices).option flag short attached? following? o
  have unchanged : o.withIndices o.indices = o := rfl
  rw [unchanged, took] at commutes
  exact congrArg (fun pair => pair.1.indices) (Except.ok.inj commutes)

theorem number_synonym {flag : Flag} {least : Nat} {n : { n : Nat // least ≤ n }}
    (given : number flag least old = .ok n) : number flag least new = .ok n := by
  unfold number at given ⊢
  rw [synonyms.first] at given
  rw [synonyms.second]
  dsimp only at given ⊢
  split at given
  · next inside =>
      rw [dif_pos inside]
      exact given
  · cases given

theorem takeText_synonym {flag : Flag} {o next : Options}
    (taken : takeText flag old o = .ok next) : takeText flag new o = .ok next := by
  unfold takeText at taken ⊢
  rw [if_neg (ne_separator_of_numeral synonyms.first)] at taken
  rw [if_neg (ne_separator_of_numeral synonyms.second)]
  cases flag with
  | samples =>
      obtain ⟨n, given, taken⟩ := ok_of_bind taken
      show number .samples 1 new >>= _ = _
      rw [number_synonym synonyms given]
      exact taken
  | delay =>
      obtain ⟨n, given, taken⟩ := ok_of_bind taken
      show number .delay 0 new >>= _ = _
      rw [number_synonym synonyms given]
      exact taken
  | format =>
      dsimp only at taken
      -- No format is named by a numeral.
      rw [ofWord?_of_numeral synonyms.first] at taken
      cases taken
  | help => exact taken
  | verbose => exact taken

/-- An option may take either numeral for its text. -/
theorem takeOption_synonym {flag : Flag} {short : Bool} {attached? : Option (List Char)}
    {o next : Options} {taken : Bool}
    (took : takeOption flags flag short attached? (some old) o = .ok (next, taken)) :
    takeOption flags flag short attached? (some new) o = .ok (next, taken) := by
  rw [takeOption_eq] at took ⊢
  obtain ⟨⟨switches, last, text?⟩, parted, took⟩ := ok_of_bind took
  rw [parted]
  show takeJoined (some new) o (switches, last, text?) = _
  unfold takeJoined at took ⊢
  dsimp only at took ⊢
  split
  · next takes =>
      rw [if_pos takes] at took
      -- An attached text leaves the numeral behind the option alone.
      cases text? with
      | some text => exact took
      | none =>
          obtain ⟨switched, first, took⟩ := ok_of_bind took
          obtain ⟨texted, second, took⟩ := ok_of_bind took
          dsimp only
          rw [first]
          show takeText last new switched >>= _ = _
          rw [takeText_synonym synonyms second]
          exact took
  · next switch =>
      rw [if_neg switch] at took
      exact took

/-! ## Reading -/

/-- What readings have found that differ in numerals that have been replaced. -/
inductive RespelledFound (old new : String) : Found → Found → Prop
  | intro (o : Options) (place : Place) {indices kept kept' : List String}
      (taken : Respelled old new o.indices indices) (left : Respelled old new kept kept') :
      RespelledFound old new ⟨o, kept, place⟩ ⟨o.withIndices indices, kept', place⟩

namespace RespelledFound

omit synonyms

variable {found found' : Found} {text text' : String} (alike : RespelledFound old new found found')
include alike

theorem keep (one : Respelled old new [text] [text']) :
    RespelledFound old new (found.keep text) (found'.keep text') := by
  obtain ⟨o, place, taken, left⟩ := alike
  exact .intro o place taken (left.append one)

theorem plain (pass : Pass) (one : Respelled old new [text] [text']) :
    RespelledFound old new (found.plain pass text) (found'.plain pass text') := by
  obtain ⟨o, place, taken, left⟩ := alike
  -- The second reading takes it as an index unless it stands behind the first row.
  cases pass with
  | first => exact .intro o .behind taken (left.append one)
  | second =>
      cases place with
      | behind => exact .intro o .behind taken (left.append one)
      | before => exact .intro { o with indices := o.indices ++ [text] } _ (taken.append one) left
      | inside => exact .intro { o with indices := o.indices ++ [text] } _ (taken.append one) left

theorem separator (pass : Pass) (text : String) :
    RespelledFound old new (found.separator pass text) (found'.separator pass text) := by
  obtain ⟨o, place, taken, left⟩ := alike
  have kept := left.append (.refl [text])
  cases pass <;> cases place
  · exact .intro o _ taken left
  · exact .intro o _ taken kept
  · exact .intro o _ taken kept
  · exact .intro o _ taken left
  · exact .intro o _ taken left
  · exact .intro o _ taken kept

theorem endRow : RespelledFound old new found.endRow found'.endRow := by
  obtain ⟨o, place, taken, left⟩ := alike
  exact .intro o _ taken left

/-- An option is taken in both, with the same text or with either numeral for its text. -/
theorem option {next : Options} {flag : Flag} {short : Bool} {attached? : Option (List Char)}
    {following? following?' : Option String} {taken : Bool}
    (took : takeOption flags flag short attached? following? found.options = .ok (next, taken))
    (again : takeOption flags flag short attached? following?' found.options = .ok (next, taken)) :
    ∃ next', takeOption flags flag short attached? following?' found'.options = .ok (next', taken) ∧
      RespelledFound old new { found.endRow with options := next }
        { found'.endRow with options := next' } := by
  obtain ⟨o, place, indices, left⟩ := alike
  rename_i list kept kept'
  refine ⟨next.withIndices list, ?_, ?_⟩
  · show takeOption flags flag short attached? following?' (o.withIndices list) = _
    rw [(commutes_withIndices list).option, again]
    rfl
  · refine .intro next _ ?_ left
    rw [indices_of_takeOption took]
    exact indices

end RespelledFound

/-- A reading that succeeds does so with the other numeral, and finds the same. -/
theorem readWords_respelled {pass : Pass} {words words' : List (String × Word)}
    {found found' last : Found} (respelled : RespelledWords old new words words')
    (alike : RespelledFound old new found found')
    (read : readWords flags pass words found = .ok last) :
    ∃ last', readWords flags pass words' found' = .ok last' ∧
      RespelledFound old new last last' := by
  -- Along the words that are read first; the others are replaced or the same.
  fun_induction readWords flags pass words found generalizing words' found' last with
  | case1 found =>
      cases respelled
      cases read
      exact ⟨found', rfl, alike⟩
  | case2 text rest found ih =>
      cases respelled with
      | same _ behind =>
          simp only [readWords]
          exact ih behind (alike.plain pass (.refl [text])) read
      | other behind =>
          simp only [readWords]
          exact ih behind (alike.plain pass (.other .nil)) read
  | case3 text rest found ih =>
      cases respelled with
      | same _ behind =>
          simp only [readWords]
          exact ih behind (alike.separator pass text) read
  | case4 text rest found ih =>
      cases respelled with
      | same _ behind =>
          simp only [readWords]
          exact ih behind (alike.endRow.keep (.refl [text])) read
  | case5 name flag short attached? text rest found ih =>
      obtain ⟨⟨options, taken⟩, took, read⟩ := ok_of_bind read
      cases respelled with
      | same _ behind =>
          cases behind with
          | same _ behind =>
              obtain ⟨next, takes, after⟩ := alike.option took took
              simp only [readWords, takes]
              refine ih options taken behind ?_ read
              cases taken
              · exact after.plain pass (.refl [text])
              · exact after
          | other behind =>
              obtain ⟨next, takes, after⟩ := alike.option took (takeOption_synonym synonyms took)
              simp only [readWords, takes]
              refine ih options taken behind ?_ read
              cases taken
              · exact after.plain pass (.other .nil)
              · exact after
  | case6 name flag short attached? rest found bare ih =>
      obtain ⟨⟨options, taken⟩, took, read⟩ := ok_of_bind read
      cases respelled with
      | @same _ _ rest' behind =>
          obtain ⟨next, takes, after⟩ := alike.option took took
          -- No plain word follows the option, whichever spelling there is.
          have bare' : ∀ text more, rest' = (text, Word.plain) :: more → False := by
            rintro text more rfl
            cases behind with
            | same _ _ => exact bare _ _ rfl
            | other _ => exact bare _ _ rfl
          rw [readWords.eq_6 _ _ _ _ _ _ _ _ bare', takes]
          exact ih options behind after read

/-! ## Unknown options -/

section Unknown

omit synonyms

variable {args : List String} {words : List (String × Word)}

/-- An unknown option stands before every `--`. -/
theorem split_of_unknown (sorted : sortWords flags args = .ok words)
    (unknown : (text, .unknown) ∈ words) :
    sortWord flags text = .ok .unknown ∧
      ∃ front behind, words = front ++ (text, .unknown) :: behind ∧
        ∀ word ∈ front, word.1 ≠ "--" := by
  induction args generalizing words with
  | nil =>
      cases sorted
      cases unknown
  | cons first rest ih =>
      unfold sortWords at sorted
      split at sorted
      · cases sorted
        rcases List.mem_cons.mp unknown with same | member
        · cases same
        · -- Behind the first separator all words are plain and not unknown.
          obtain ⟨_, _, same⟩ := List.mem_map.mp member
          cases same
      · next other =>
          obtain ⟨word, single, sorted⟩ := ok_of_bind sorted
          obtain ⟨words, others, sorted⟩ := ok_of_bind sorted
          cases sorted
          rcases List.mem_cons.mp unknown with same | member
          · cases same
            exact ⟨single, [], words, rfl, fun _ none => absurd none List.not_mem_nil⟩
          · obtain ⟨sorting, front, behind, rfl, apart⟩ := ih others member
            exact ⟨sorting, (first, word) :: front, behind, rfl,
              List.forall_mem_cons.mpr ⟨other, apart⟩⟩

/-- And what is not known is sorted as such before every `--`. -/
theorem unknown_of_split {front behind : List String} (unknown : sortWord flags text = .ok .unknown)
    (apart : "--" ∉ front) (other : text ≠ "--")
    (sorted : sortWords flags (front ++ text :: behind) = .ok words) :
    (text, .unknown) ∈ words := by
  induction front generalizing words with
  | nil =>
      rw [List.nil_append, sortWords, if_neg other] at sorted
      obtain ⟨word, single, sorted⟩ := ok_of_bind sorted
      obtain ⟨later, _, sorted⟩ := ok_of_bind sorted
      cases unknown.symm.trans single
      cases sorted
      exact List.mem_cons_self
  | cons first rest ih =>
      obtain ⟨different, apart⟩ := not_or.mp (mt List.mem_cons.mpr apart)
      rw [List.cons_append, sortWords, if_neg fun same => different same.symm] at sorted
      obtain ⟨word, _, sorted⟩ := ok_of_bind sorted
      obtain ⟨later, others, sorted⟩ := ok_of_bind sorted
      cases sorted
      exact List.mem_cons_of_mem _ (ih apart others)

/-- Some of these texts have been kept, behind those kept before. -/
def Found.Keeps (texts : List String) (found next : Found) : Prop :=
  ∃ more, next.kept = found.kept ++ more ∧ ∀ text ∈ more, text ∈ texts

theorem Found.Keeps.cons {text : String} {more : List String} {found mid last : Found}
    (one : found.Keeps [text] mid) (two : mid.Keeps more last) :
    found.Keeps (text :: more) last := by
  obtain ⟨first, kept, among⟩ := one
  obtain ⟨second, kept', among'⟩ := two
  refine ⟨first ++ second, by rw [kept', kept, List.append_assoc], ?_⟩
  refine List.forall_mem_append.mpr ⟨fun other member => ?_, fun other member => ?_⟩
  · rw [List.mem_singleton.mp (among other member)]
    exact List.mem_cons_self
  · exact List.mem_cons_of_mem _ (among' other member)

theorem keeps_nothing (texts : List String) {found next : Found} (same : next.kept = found.kept) :
    found.Keeps texts next := ⟨[], by rw [same, List.append_nil], nofun⟩

theorem keeps_one (text : String) {found next : Found} (kept : next.kept = found.kept ++ [text]) :
    found.Keeps [text] next := ⟨[text], kept, fun _ member => member⟩

theorem keeps_plain (pass : Pass) (text : String) (found : Found) :
    found.Keeps [text] (found.plain pass text) := by
  obtain ⟨o, kept, place⟩ := found
  cases pass
  · exact keeps_one text rfl
  · cases place
    · exact keeps_nothing _ rfl
    · exact keeps_nothing _ rfl
    · exact keeps_one text rfl

theorem keeps_separator (pass : Pass) (text : String) (found : Found) :
    found.Keeps [text] (found.separator pass text) := by
  obtain ⟨o, kept, place⟩ := found
  cases pass <;> cases place
  all_goals first
    | exact keeps_nothing _ rfl
    | exact keeps_one text rfl

/-- What a reading keeps are texts that it has read. -/
theorem keeps_readWords {pass : Pass} {found last : Found}
    (read : readWords flags pass words found = .ok last) :
    found.Keeps (words.map (·.1)) last := by
  fun_induction readWords flags pass words found generalizing last with
  | case1 found =>
      cases read
      exact keeps_nothing _ rfl
  | case2 text rest found ih => exact (keeps_plain pass text found).cons (ih read)
  | case3 text rest found ih => exact (keeps_separator pass text found).cons (ih read)
  | case4 text rest found ih => exact (keeps_one text rfl).cons (ih read)
  | case5 name flag short attached? text rest found ih =>
      obtain ⟨⟨options, taken⟩, took, read⟩ := ok_of_bind read
      have optioned : found.Keeps [name] { found.endRow with options } := keeps_nothing _ rfl
      refine optioned.cons (Found.Keeps.cons ?_ (ih options taken read))
      -- The word behind the option is its text, and then it is not kept, or it is read by itself.
      cases taken
      · exact keeps_plain pass text _
      · exact keeps_nothing _ rfl
  | case6 name flag short attached? rest found bare ih =>
      obtain ⟨⟨options, taken⟩, took, read⟩ := ok_of_bind read
      have optioned : found.Keeps [name] { found.endRow with options } := keeps_nothing _ rfl
      exact optioned.cons (ih options read)

/-- No option takes an unknown one for its text, so what stands before it is read by itself. -/
theorem readWords_append (pass : Pass) (front behind : List (String × Word)) (text : String)
    (found : Found) :
    readWords flags pass (front ++ (text, .unknown) :: behind) found =
      readWords flags pass front found >>= fun mid =>
        readWords flags pass behind (mid.endRow.keep text) := by
  fun_induction readWords flags pass front found with
  | case1 found => rfl
  | case2 text rest found ih => exact ih
  | case3 text rest found ih => exact ih
  | case4 text rest found ih => exact ih
  | case5 name flag short attached? other rest found ih =>
      simp only [List.cons_append, readWords]
      cases takeOption flags flag short attached? (some other) found.options with
      | error stop => rfl
      | ok given => exact ih given.1 given.2
  | case6 name flag short attached? rest found bare ih =>
      -- If no plain word followed the option before, none does now: what is appended is unknown.
      have bare' : ∀ other more, rest ++ (text, Word.unknown) :: behind = (other, .plain) :: more →
          False := by
        intro other more same
        cases rest with
        | nil => cases same
        | cons word rest =>
            cases same
            exact bare _ _ rfl
      rw [List.cons_append, readWords.eq_6 _ _ _ _ _ _ _ _ bare']
      cases takeOption flags flag short attached? none found.options with
      | error stop => rfl
      | ok given => exact ih given.1

/-- An unknown option is left by both readings, before every `--`. -/
theorem kept_of_unknown {pass : Pass} {o : Options} {last : Found}
    (sorted : sortWords flags args = .ok words) (unknown : (text, .unknown) ∈ words)
    (read : readWords flags pass words { options := o } = .ok last) :
    ∃ front behind, last.kept = front ++ text :: behind ∧ "--" ∉ front := by
  obtain ⟨_, front, behind, rfl, apart⟩ := split_of_unknown sorted unknown
  rw [readWords_append] at read
  obtain ⟨mid, before, after⟩ := ok_of_bind read
  obtain ⟨texts, kept, among⟩ := keeps_readWords before
  obtain ⟨more, later, _⟩ := keeps_readWords after
  refine ⟨texts, more, ?_, fun member => ?_⟩
  · rw [later]
    show mid.kept ++ [text] ++ more = _
    rw [kept]
    simp
  · obtain ⟨word, listed, same⟩ := List.mem_map.mp (among _ member)
    exact apart word listed same

end Unknown

/-! ## Command lines -/

/-- One reading with the other numeral, unless the first one is taken for an unknown option. -/
theorem readOnce_respelled {pass : Pass} {o : Options} {indices args args' : List String}
    {last : Found} (respelled : Respelled old new args args')
    (taken : Respelled old new o.indices indices)
    (read : readOnce flags pass o args = .ok last) :
    (sortWord flags old = .ok .unknown ∧
        ∃ front behind, last.kept = front ++ old :: behind ∧ "--" ∉ front) ∨
      ∃ last', readOnce flags pass (o.withIndices indices) args' = .ok last' ∧
        RespelledFound old new last last' := by
  obtain ⟨words, sorted, read⟩ := ok_of_bind read
  have sorted := ok_of_mapError sorted
  rcases sortWords_respelled synonyms respelled sorted with unknown | ⟨words', sorted', alike⟩
  · exact .inl ⟨(split_of_unknown sorted unknown).1, kept_of_unknown sorted unknown read⟩
  · obtain ⟨last', read', found⟩ := readWords_respelled synonyms alike
      (.intro o .before taken .nil) read
    refine .inr ⟨last', ?_, found⟩
    unfold readOnce
    rw [sorted']
    exact read'

omit synonyms in
/-- An accepted command line is accepted with the other numeral, and read as the same options but
for the indices, in which the numeral may be another as well. -/
theorem options_respelled {c : Command} {o : Options} {args args' : List String}
    (synonyms : Synonyms c.flags i old new) (respelled : Respelled old new args args')
    (accepted : c.options args = .ok o) :
    ∃ indices, Respelled old new o.indices indices ∧
      c.options args' = .ok (o.withIndices indices) := by
  obtain ⟨first, once, accepted⟩ := ok_of_bind accepted
  obtain ⟨second, twice, accepted⟩ := ok_of_bind accepted
  split at accepted
  · next none =>
      cases accepted
      have read : second.kept = [] := List.isEmpty_iff.mp none
      rcases readOnce_respelled synonyms respelled .nil once with
        ⟨unknown, front, behind, kept, apart⟩ | ⟨first', once', found⟩
      · -- What the first reading takes for an unknown option, the second one does as well.
        exfalso
        obtain ⟨words, sorted, again⟩ := ok_of_bind twice
        have sorted := ok_of_mapError sorted
        rw [kept] at sorted
        have other := ne_separator_of_numeral synonyms.first
        have member := unknown_of_split unknown apart other sorted
        obtain ⟨front', behind', kept', _⟩ := kept_of_unknown sorted member again
        rw [read] at kept'
        exact absurd kept'.symm (by simp)
      · obtain ⟨mid, place, taken, left⟩ := found
        rcases readOnce_respelled synonyms left taken twice with
          ⟨_, front, behind, kept, _⟩ | ⟨second', twice', found'⟩
        · rw [read] at kept
          exact absurd kept.symm (by simp)
        · obtain ⟨last, place', taken', left'⟩ := found'
          refine ⟨_, taken', ?_⟩
          unfold options
          rw [show readOnce c.flags .first {} args' = _ from once']
          show readOnce c.flags .second _ _ >>= _ = _
          rw [twice']
          cases read
          cases left'
          rfl
  · cases accepted

end GpuTelemetry.Command
