import InstanceIdentity.Proofs.Numerals

/-!
# The texts of JSON

The texts of JSON are given by a grammar that knows no limits: values may be nested to any depth and
whole numbers may have any number of digits. How deep and how long they are is the extent of a text.
The reader takes every text whose extent is within its limits for the value that the grammar says,
and refuses every object beyond them for going beyond a limit. What stands in a text before the
place of the excess makes no difference. The words that are numbers are read by a call, as arrays
and objects are, so they count as one more level.

## Main definitions

* `Json.Extent` — how deep values are nested and how long whole numbers are
* `Json.Written` — the ways of writing values, items and members, with their extents

## Main results

* `Json.Written.isRead`, `Json.Written.isRefused` — what a piece of a text does to the reader
* `Json.read_of_fits`, `Json.read_of_exceeds` — the texts that are read and those that are refused
-/

namespace InstanceIdentity

namespace Json

/-! ## Extents -/

/-- How many calls stand within one another in the reading of a piece of a text, and how many digits
the longest whole number has. An array or object takes a call, and so does a word for a number. -/
structure Extent where
  depth : Nat
  digits : Nat
  deriving DecidableEq, Repr

namespace Extent

/-- The extent of what holds no value and is no whole number. -/
def flat : Extent := ⟨0, 0⟩

/-- The extent of a word for a number. -/
def called : Extent := ⟨1, 0⟩

/-- The extent of a word. -/
def ofWord : Json → Extent
  | .real _ => called
  | _ => flat

/-- The extent of an array or object around others. -/
def nested (x : Extent) : Extent := ⟨x.depth + 1, x.digits⟩

/-- The extent of two pieces side by side. -/
def beside (x y : Extent) : Extent := ⟨max x.depth y.depth, max x.digits y.digits⟩

/-- An extent is within the limits when some arrays and objects are open, and so many have room. -/
def Fits (x : Extent) (room level : Nat) : Prop :=
  level + x.depth ≤ room ∧ x.digits ≤ greatestDigits

instance (x : Extent) (room level : Nat) : Decidable (x.Fits room level) :=
  inferInstanceAs (Decidable (level + x.depth ≤ room ∧ x.digits ≤ greatestDigits))

variable {x y : Extent} {room level : Nat}

theorem fits_nested : x.nested.Fits room level ↔ x.Fits room (level + 1) := by
  rw [Fits, Fits, nested]
  dsimp only
  omega

theorem fits_beside :
    (x.beside y).Fits room level ↔ x.Fits room level ∧ y.Fits room level := by
  rw [Fits, Fits, Fits, beside]
  dsimp only
  omega

theorem fits_flat (within : level ≤ room) : flat.Fits room level := ⟨within, Nat.zero_le _⟩

theorem fits_called : called.Fits room level ↔ level < room :=
  ⟨fun fits => fits.1, fun free => ⟨free, Nat.zero_le _⟩⟩

/-- An empty array or object does not fit only where there is no room for it. -/
theorem room_le_of_not_fits (exceeds : ¬ flat.nested.Fits room level) : room ≤ level := by
  by_contra free
  exact exceeds (fits_nested.mpr (fits_flat (Nat.lt_of_not_le free)))

/-- Nothing fits but where what is open has room. -/
theorem Fits.level_le (h : x.Fits room level) : level ≤ room := Nat.le_of_add_right_le h.1

end Extent

/-! ## Ways of writing -/

/-- What a piece of a text stands for: a value, a value with white space around it, the items of an
array, a member of an object, or its members. -/
inductive Piece
  | value (v : Json)
  | item (v : Json)
  | items (vs : List Json)
  | member (m : Text × Json)
  | members (ms : List (Text × Json))

/-- The ways of writing. Items and members stand with commas between them, and there is one of them
at least. -/
inductive Written : Piece → Extent → List Char → Prop
  | word {s : List Char} {v : Json} (listed : (s, v) ∈ words) : Written (.value v) (.ofWord v) s
  | minusInfinity : Written (.value (.real "-Infinity")) .called "-Infinity".toList
  | integer {i : Int} {k : Nat} {s : List Char} (written : WrittenInteger i k s) :
      Written (.value (.int i)) ⟨0, k⟩ s
  | real {s : List Char} (written : WrittenReal s) :
      Written (.value (.real (String.ofList s))) .flat s
  | string {t : Text} {s : List Char} (quoted : Quoted t s) : Written (.value (.string t)) .flat s
  | emptyArray {s : List Char} (blank : IsBlank s) :
      Written (.value (.array [])) Extent.flat.nested ('[' :: (s ++ [']']))
  | array {vs : List Json} {x : Extent} {s : List Char} (items : Written (.items vs) x s) :
      Written (.value (.array vs)) x.nested ('[' :: (s ++ [']']))
  | emptyObject {s : List Char} (blank : IsBlank s) :
      Written (.value (.object [])) Extent.flat.nested ('\x7b' :: (s ++ ['\x7d']))
  | object {ms : List (Text × Json)} {x : Extent} {s : List Char}
      (members : Written (.members ms) x s) :
      Written (.value (.object ms)) x.nested ('\x7b' :: (s ++ ['\x7d']))
  | item {v : Json} {x : Extent} {before s after : List Char} (blank : IsBlank before)
      (value : Written (.value v) x s) (blank' : IsBlank after) :
      Written (.item v) x (before ++ (s ++ after))
  | lastItem {v : Json} {x : Extent} {s : List Char} (item : Written (.item v) x s) :
      Written (.items [v]) x s
  | items {v : Json} {vs : List Json} {x y : Extent} {s s' : List Char}
      (item : Written (.item v) x s) (others : Written (.items vs) y s') :
      Written (.items (v :: vs)) (x.beside y) (s ++ ',' :: s')
  | member {key : Text} {v : Json} {x : Extent} {before name between s : List Char}
      (blank : IsBlank before) (quoted : Quoted key name) (blank' : IsBlank between)
      (item : Written (.item v) x s) :
      Written (.member (key, v)) x (before ++ (name ++ (between ++ ':' :: s)))
  | lastMember {m : Text × Json} {x : Extent} {s : List Char} (member : Written (.member m) x s) :
      Written (.members [m]) x s
  | members {m : Text × Json} {ms : List (Text × Json)} {x y : Extent} {s s' : List Char}
      (member : Written (.member m) x s) (others : Written (.members ms) y s') :
      Written (.members (m :: ms)) (x.beside y) (s ++ ',' :: s')

variable {room : Nat} {p : Piece} {v : Json} {x : Extent} {stack outer : List Frame}
  {s : List Char} {c : Char} {ms done : List (Text × Json)}

/-! ## Words -/

/-- The phases that wait for the last letters of a word. -/
def Phase.Spells (rest : List Char) (v : Json) (phase : Phase) : Prop :=
  ∃ start, phase = .word start rest v

theorem leads_spelled (h : (s, v) ∈ words) : ∃ last, s = s.dropLast ++ [last] ∧
    Leads room (At .value stack) (In (Phase.Spells [last] v) stack) s.dropLast := by
  simp only [words, List.mem_cons, Prod.mk.injEq, List.not_mem_nil, or_false] at h
  rcases h with ⟨rfl, rfl⟩ | ⟨rfl, rfl⟩ | ⟨rfl, rfl⟩ | ⟨rfl, rfl⟩ | ⟨rfl, rfl⟩ <;>
    (refine ⟨_, rfl, ?_⟩; rintro ⟨_, _, place⟩ ⟨rfl, rfl⟩; exact ⟨_, rfl, ⟨_, rfl⟩, rfl⟩)

theorem leads_minusInfinit :
    Leads room (At .value stack) (In (Phase.Spells ['y'] (.real "-Infinity")) stack)
      "-Infinit".toList := by
  rintro ⟨_, _, place⟩ ⟨rfl, rfl⟩
  exact ⟨_, rfl, ⟨_, rfl⟩, rfl⟩

theorem completeWord_of_fits (fits : (Extent.ofWord v).Fits room stack.length) :
    completeWord room stack v = .ok (.after v, stack) := by
  cases v with
  | real spelling => exact if_neg (Nat.not_le.mpr (Extent.fits_called.mp fits))
  | _ => rfl

theorem completeWord_of_exceeds (within : stack.length ≤ room)
    (exceeds : ¬ (Extent.ofWord v).Fits room stack.length) :
    completeWord room stack v = .error (.noCall true) := by
  cases v with
  | real spelling => exact if_pos (Nat.not_lt.mp fun free => exceeds (Extent.fits_called.mpr free))
  | _ => exact absurd (Extent.fits_flat within) exceeds

/-- The last letter of a word. -/
theorem Phase.step_last {phase : Phase} (spells : phase.Spells [c] v) (place : Place) :
    phase.step room place stack c = completeWord room stack v := by
  obtain ⟨start, rfl⟩ := spells
  rw [Phase.step, stepWord, if_pos rfl]
  rfl

theorem leads_last (fits : (Extent.ofWord v).Fits room stack.length) :
    Leads room (In (Phase.Spells [c] v) stack) (At (.after v) stack) [c] :=
  leads_of_step fun _ spells place =>
    ⟨_, (Phase.step_last spells place).trans (completeWord_of_fits fits), rfl⟩

theorem halts_last (within : stack.length ≤ room)
    (exceeds : ¬ (Extent.ofWord v).Fits room stack.length) :
    Halts room (In (Phase.Spells [c] v) stack) [c] :=
  halts_of_step fun _ spells place => ⟨_, .noCall true,
    (Phase.step_last spells place).trans (completeWord_of_exceeds within exceeds)⟩

theorem leads_word (h : (s, v) ∈ words) (fits : (Extent.ofWord v).Fits room stack.length) :
    Leads room (At .value stack) (At (.after v) stack) s := by
  obtain ⟨last, same, led⟩ := leads_spelled h
  rw [same]
  exact led.append (leads_last fits)

theorem halts_word (h : (s, v) ∈ words) (within : stack.length ≤ room)
    (exceeds : ¬ (Extent.ofWord v).Fits room stack.length) :
    Halts room (At .value stack) s := by
  obtain ⟨last, same, led⟩ := leads_spelled h
  rw [same]
  exact led.halts (halts_last within exceeds)

/-! ## Brackets and braces -/

theorem openContainer_of_lt (container : Container) (free : stack.length < room) :
    openContainer room container stack =
      match container with
      | .array => .ok (.value, .array [] :: stack)
      | .object => .ok (.name [], stack) :=
  if_neg (Nat.not_le.mpr free)

theorem leads_bracket (free : stack.length < room) :
    Leads room (At .value stack) (At .value (.array [] :: stack)) ['['] :=
  leads_of_step_eq fun _ => openContainer_of_lt .array free

theorem leads_brace (free : stack.length < room) :
    Leads room (At .value stack) (At (.name []) stack) ['\x7b'] :=
  leads_of_step_eq fun _ => openContainer_of_lt .object free

theorem halts_bracket (full : room ≤ stack.length) : Halts room (At .value stack) ['['] :=
  halts_of_step fun _ same _ => ⟨_, .tooDeep .array, same ▸ if_pos full⟩

theorem halts_brace (full : room ≤ stack.length) : Halts room (At .value stack) ['\x7b'] :=
  halts_of_step fun _ same _ => ⟨_, .tooDeep .object, same ▸ if_pos full⟩

theorem leads_comma_item {items : List Json} :
    Leads room (In (Completes v) (.array items :: outer)) (At .value (.array (v :: items) :: outer))
      [','] :=
  leads_of_completes (.inr (.inl rfl)) fun _ => rfl

theorem leads_bracket' {items : List Json} :
    Leads room (In (Completes v) (.array items :: outer))
      (At (.after (.array (items.reverse ++ [v]))) outer) [']'] := by
  rw [← List.reverse_cons]
  exact leads_of_completes (.inr (.inr (.inl rfl))) fun _ => rfl

theorem leads_comma_member {key : Text} :
    Leads room (In (Completes v) (.object done key :: outer)) (At (.name ((key, v) :: done)) outer)
      [','] :=
  leads_of_completes (.inr (.inl rfl)) fun _ => rfl

theorem leads_brace' {key : Text} :
    Leads room (In (Completes v) (.object done key :: outer))
      (At (.after (.object (done.reverse ++ [(key, v)]))) outer) ['\x7d'] := by
  rw [← List.reverse_cons]
  exact leads_of_completes (.inr (.inr (.inr rfl))) fun _ => rfl

/-- A key, from white space in front of it to the colon behind it. -/
theorem leads_key {key : Text} {before name between : List Char} (blank : IsBlank before)
    (quoted : Quoted key name) (blank' : IsBlank between) :
    Leads room (At (.name done) outer) (At .value (.object done key :: outer))
      (before ++ (name ++ (between ++ [':']))) := by
  have colon :
      Leads room (At (.colon done key) outer) (At .value (.object done key :: outer)) [':'] :=
    leads_of_step_eq fun _ => rfl
  exact (skipsSpace_name.leads blank).append ((leads_name quoted).append
    ((skipsSpace_colon.leads blank').append colon))

/-! ## Within the limits -/

/-- What a piece of an extent does to the reader within the limits. -/
def Piece.IsRead (room : Nat) : Piece → Extent → List Char → Prop
  | .value v, x, s | .item v, x, s => ∀ stack, x.Fits room stack.length →
    Leads room (At .value stack) (In (Completes v) stack) s
  | .items vs, x, s => ∀ outer done, x.Fits room (outer.length + 1) →
    Leads room (At .value (.array done :: outer)) (At (.after (.array (done.reverse ++ vs))) outer)
      (s ++ [']'])
  | .member m, x, s => ∀ outer done, x.Fits room (outer.length + 1) →
    Leads room (At (.name done) outer) (In (Completes m.2) (.object done m.1 :: outer)) s
  | .members ms, x, s => ∀ outer done, x.Fits room (outer.length + 1) →
    Leads room (At (.name done) outer) (At (.after (.object (done.reverse ++ ms))) outer)
      (s ++ ['\x7d'])

/-- Within the limits, pieces are read for what they stand for. -/
theorem Written.isRead (h : Written p x s) : p.IsRead room x s := by
  have completed {stack : List Frame} {v : Json} {s : List Char}
      (led : Leads room (At .value stack) (At (.after v) stack) s) :
      Leads room (At .value stack) (In (Completes v) stack) s :=
    led.mono fun _ same => same ▸ .after
  -- The frames that are open are as many as the level from which the extent has to fit.
  induction h with
  | word listed => exact fun stack fits => completed (leads_word listed fits)
  | minusInfinity =>
    exact fun stack fits => completed (leads_minusInfinit.append (leads_last fits))
  | integer written => exact fun stack fits => written.completes fits.2
  | real written => exact fun stack _ => written.completes
  | string quoted => exact fun stack _ => completed (leads_value quoted)
  | emptyArray blank =>
    intro stack fits
    have closes :
        Leads room (At .value (.array [] :: stack)) (At (.after (.array [])) stack) [']'] :=
      leads_of_step_eq fun _ => rfl
    exact completed ((leads_bracket (Extent.fits_nested.mp fits).level_le).cons
      ((skipsSpace_value.leads blank).append closes))
  | array items ih =>
    intro stack fits
    have inside := Extent.fits_nested.mp fits
    exact completed ((leads_bracket inside.level_le).cons (ih stack [] inside))
  | emptyObject blank =>
    intro stack fits
    have closes : Leads room (At (.name []) stack) (At (.after (.object [])) stack) ['\x7d'] :=
      leads_of_step_eq fun _ => rfl
    exact completed ((leads_brace (Extent.fits_nested.mp fits).level_le).cons
      ((skipsSpace_name.leads blank).append closes))
  | object members ih =>
    intro stack fits
    have inside := Extent.fits_nested.mp fits
    exact completed ((leads_brace inside.level_le).cons (ih stack [] inside))
  | item blank value blank' ih =>
    exact fun stack fits =>
      (skipsSpace_value.leads blank).append ((ih stack fits).append (leads_blank blank'))
  | lastItem item ih => exact fun outer done fits =>
    (ih (.array done :: outer) fits).append leads_bracket'
  | @items v vs x y s s' item others ih ih' =>
    intro outer done fits
    obtain ⟨fits, fits'⟩ := Extent.fits_beside.mp fits
    have rest := ih' outer (v :: done) fits'
    rw [List.reverse_cons, List.append_assoc, List.singleton_append] at rest
    rw [List.append_assoc, List.cons_append]
    exact (ih (.array done :: outer) fits).append (leads_comma_item.cons rest)
  | @member key v x before name between s blank quoted blank' item ih =>
    intro outer done fits
    have led := (leads_key blank quoted blank').append (ih (.object done key :: outer) fits)
    simpa only [List.append_assoc, List.singleton_append] using led
  | lastMember member ih => exact fun outer done fits => (ih outer done fits).append leads_brace'
  | @members m ms x y s s' member others ih ih' =>
    intro outer done fits
    obtain ⟨fits, fits'⟩ := Extent.fits_beside.mp fits
    have rest := ih' outer (m :: done) fits'
    rw [List.reverse_cons, List.append_assoc, List.singleton_append] at rest
    rw [List.append_assoc, List.cons_append]
    exact (ih outer done fits).append (leads_comma_member.cons rest)

/-! ## Beyond the limits -/

/-- What a piece of an extent does to the reader beyond the limits. -/
def Piece.IsRefused (room : Nat) : Piece → Extent → List Char → Prop
  | .value _, x, s | .item _, x, s => ∀ stack c, stack.length ≤ room →
    ¬ x.Fits room stack.length → EndsValue c → Halts room (At .value stack) (s ++ [c])
  | .items _, x, s => ∀ outer done, outer.length + 1 ≤ room →
    ¬ x.Fits room (outer.length + 1) → Halts room (At .value (.array done :: outer)) (s ++ [']'])
  | .member _, x, s => ∀ outer done c, outer.length + 1 ≤ room →
    ¬ x.Fits room (outer.length + 1) → EndsValue c → Halts room (At (.name done) outer) (s ++ [c])
  | .members _, x, s => ∀ outer done, outer.length + 1 ≤ room →
    ¬ x.Fits room (outer.length + 1) → Halts room (At (.name done) outer) (s ++ ['\x7d'])

/-- Beyond the limits, pieces are refused at the latest behind their last character. -/
theorem Written.isRefused (h : Written p x s) : p.IsRefused room x s := by
  have flat {stack : List Frame} (within : stack.length ≤ room) :
      ¬ ¬ Extent.flat.Fits room stack.length :=
    fun exceeds => exceeds (Extent.fits_flat within)
  -- Of several pieces, the first that exceeds is refused and those in front of it are read.
  induction h with
  | word listed =>
    exact fun stack c within exceeds _ => (halts_word listed within exceeds).append [c]
  | minusInfinity =>
    exact fun stack c within exceeds _ =>
      (leads_minusInfinit.halts (halts_last within exceeds)).append [c]
  | real written => exact fun stack c within exceeds => absurd exceeds (flat within)
  | string quoted => exact fun stack c within exceeds => absurd exceeds (flat within)
  | @integer i k s written =>
    intro stack c within exceeds ends
    have many : greatestDigits < k := Nat.lt_of_not_le fun few => exceeds ⟨within, few⟩
    exact (written.exceeds many).halts (halts_of_exceeds ends)
  | emptyArray blank =>
    intro stack c within exceeds ends
    exact (halts_bracket (Extent.room_le_of_not_fits exceeds)).append _
  | array items ih =>
    intro stack c within exceeds ends
    rw [Extent.fits_nested] at exceeds
    rcases Nat.lt_or_ge stack.length room with free | full
    · exact ((leads_bracket free).halts (ih stack [] free exceeds)).append [c]
    · exact (halts_bracket full).append _
  | emptyObject blank =>
    intro stack c within exceeds ends
    exact (halts_brace (Extent.room_le_of_not_fits exceeds)).append _
  | object members ih =>
    intro stack c within exceeds ends
    rw [Extent.fits_nested] at exceeds
    rcases Nat.lt_or_ge stack.length room with free | full
    · exact ((leads_brace free).halts (ih stack [] free exceeds)).append [c]
    · exact (halts_brace full).append _
  | @item v x before s after blank value blank' ih =>
    intro stack c within exceeds ends
    have behind : Halts room (At .value stack) (s ++ (after ++ [c])) := by
      cases after with
      | nil => exact ih stack c within exceeds ends
      | cons a rest =>
        -- White space ends the value before anything else does.
        have first := ih stack a within exceeds (.inl (List.forall_mem_cons.mp blank').1)
        have refused := first.append (rest ++ [c])
        rwa [List.append_assoc] at refused
    rw [List.append_assoc, List.append_assoc]
    exact (skipsSpace_value.leads blank).halts behind
  | lastItem item ih =>
    exact fun outer done within exceeds => ih _ _ within exceeds (.inr (.inr (.inl rfl)))
  | @items v vs x y s s' item others ih ih' =>
    intro outer done within exceeds
    rw [Extent.fits_beside, not_and_or] at exceeds
    rw [List.append_assoc, List.cons_append]
    by_cases fits : x.Fits room (outer.length + 1)
    · have rest := ih' outer (v :: done) within (exceeds.resolve_left (not_not_intro fits))
      exact (item.isRead (.array done :: outer) fits).halts (leads_comma_item.halts rest)
    · have first := ih (.array done :: outer) ',' within fits (.inr (.inl rfl))
      have refused := first.append (s' ++ [']'])
      rwa [List.append_assoc] at refused
  | @member key v x before name between s blank quoted blank' item ih =>
    intro outer done c within exceeds ends
    have refused := (leads_key blank quoted blank').halts
      (ih (.object done key :: outer) c within exceeds ends)
    simpa only [List.append_assoc, List.cons_append, List.nil_append] using refused
  | lastMember member ih =>
    exact fun outer done within exceeds => ih outer done _ within exceeds (.inr (.inr (.inr rfl)))
  | @members m ms x y s s' member others ih ih' =>
    intro outer done within exceeds
    rw [Extent.fits_beside, not_and_or] at exceeds
    rw [List.append_assoc, List.cons_append]
    by_cases fits : x.Fits room (outer.length + 1)
    · have rest := ih' outer (m :: done) within (exceeds.resolve_left (not_not_intro fits))
      exact (member.isRead outer done fits).halts (leads_comma_member.halts rest)
    · have first := ih outer done ',' within fits (.inr (.inl rfl))
      have refused := first.append (s' ++ ['\x7d'])
      rwa [List.append_assoc] at refused

/-! ## Whole texts -/

/-- No text that leads on begins with a mark. -/
theorem head?_ne_of_run {after : State} (h : State.initial.run room s = .ok after) :
    s.head? ≠ some '\uFEFF' := by
  intro marked
  obtain ⟨rest, rfl⟩ := List.head?_eq_some_iff.mp marked
  obtain ⟨between, step, -⟩ := State.run_cons_eq_ok_iff.mp h
  rw [State.step_eq_ok_iff, State.initial, Phase.step, stepValue_of_foreign (by decide)] at step
  cases step.1

/-- A text within the limits is read as the value that it stands for. -/
theorem read_of_fits (h : Written (.item v) x s) (fits : x.Fits room 0) :
    read room s = .ok v := by
  obtain ⟨⟨phase, stack, place⟩, run, completes, rfl⟩ := h.isRead [] fits .initial ⟨rfl, rfl⟩
  refine read_eq_ok_iff.mpr ⟨head?_ne_of_run run, _, run, ?_⟩
  rw [State.finish_eq_ok_iff]
  cases completes with
  | after => rfl
  | numeral value closed =>
    rw [Phase.finish, value]
    rfl

/-- A text that goes beyond a limit is refused for that. -/
theorem read_of_halts (h : Halts room (At .value []) s) :
    ∃ e, Error.IsLimit e ∧ read room s = .error e := by
  obtain ⟨e, limit, run⟩ := h .initial ⟨rfl, rfl⟩
  refine ⟨e, limit, ?_⟩
  rw [read, readText, State.runText_ofChars, run, if_neg]
  intro marked
  -- A mark is refused as no value.
  obtain ⟨rest, rfl⟩ := List.head?_eq_some_iff.mp (head?_ofChars_eq_iff.mp marked)
  rw [State.run, State.step, State.initial, Phase.step, stepValue_of_foreign (by decide)] at run
  obtain rfl := Except.error.inj run
  cases limit

/-- The text of an object beyond the limits is refused for that. -/
theorem read_of_exceeds {before after : List Char} (free : 0 < room) (blank : IsBlank before)
    (h : Written (.members ms) x s) (exceeds : ¬ x.Fits room 1) :
    ∃ e, Error.IsLimit e ∧ read room (before ++ '\x7b' :: (s ++ '\x7d' :: after)) = .error e := by
  have inside := h.isRefused [] [] free exceeds
  have refused := (skipsSpace_value.leads blank).halts ((leads_brace free).halts inside)
  apply read_of_halts
  simpa only [List.append_assoc, List.cons_append, List.nil_append] using refused.append after

/-- The text of an object within the limits is read as its members. -/
theorem read_of_members {before after : List Char} (blank : IsBlank before)
    (h : Written (.members ms) x s) (blank' : IsBlank after) (fits : x.Fits room 1) :
    read room (before ++ '\x7b' :: (s ++ '\x7d' :: after)) = .ok (.object ms) := by
  have written := Written.item blank h.object blank'
  have read := read_of_fits written (Extent.fits_nested.mpr fits)
  simpa only [List.append_assoc, List.cons_append, List.nil_append] using read

end Json

end InstanceIdentity
