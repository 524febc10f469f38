import FilePlacement.NodeAddresses
import Mathlib.Data.List.Perm.Basic

/-!
# Which address a node is reached under

Of the texts that give addresses to nodes, the last one for a node counts (`get?_addAll`), and a node for which there
is none is reached under its own name. So the order of texts for different nodes does not matter, only that of texts
for one node (`lastAddress?_filter`). Texts that are not all assignments are refused for the first one that is none.
-/

namespace FilePlacement.NodeAddresses

/-- A text gives a node an address: the name of the node, which has no `=`, then `=`, then the address, which may have
more of them. -/
def Assigns (text node address : String) : Prop :=
  text = node ++ "=" ++ address ∧ '=' ∉ node.toList ∧ node ≠ "" ∧ address ≠ ""

theorem split?_eq_some_iff {text node address : String} :
    split? text = some (node, address) ↔ Assigns text node address := by
  unfold split? Assigns
  rw [Option.map_eq_some_iff]
  constructor
  · rintro ⟨⟨a, b⟩, hcut, hpair⟩
    obtain ⟨rfl, rfl⟩ := Prod.mk.inj hpair
    obtain ⟨htext, hmem, ha, hb⟩ := Text.cutProper_eq_some_iff.1 hcut
    refine ⟨?_, by simpa using hmem, by simpa using ha, by simpa using hb⟩
    apply String.toList_inj.1
    simp [htext]
  · rintro ⟨rfl, hmem, hnode, haddress⟩
    refine ⟨(node.toList, address.toList), ?_, by simp⟩
    apply Text.cutProper_eq_some_iff.2
    exact ⟨by simp, hmem, by simpa using hnode, by simpa using haddress⟩

/-- A text that gives some node an address. -/
def IsAssignment (text : String) : Prop := ∃ node address, Assigns text node address

theorem isAssignment_iff {text : String} : IsAssignment text ↔ (split? text).isSome = true := by
  simp only [IsAssignment, ← split?_eq_some_iff, Option.isSome_iff_exists, Prod.exists]

instance : DecidablePred IsAssignment := fun _ => decidable_of_iff _ isAssignment_iff.symm

theorem split?_eq_none_iff {text : String} : split? text = none ↔ ¬ IsAssignment text := by
  rw [isAssignment_iff]
  simp

/-! ## Of several texts the last one -/

/-- The address that a text gives a node, if it is about that node. -/
def addressIn? (node text : String) : Option String :=
  match split? text with
  | some (name, address) => if name = node then some address else none
  | none => none

theorem addressIn?_eq_some_iff {node text address : String} :
    addressIn? node text = some address ↔ Assigns text node address := by
  rw [← split?_eq_some_iff]
  unfold addressIn?
  cases split? text with
  | none => simp
  | some p =>
    obtain ⟨name, a⟩ := p
    by_cases h : name = node <;> simp [h]

/-- The address that the last text about a node gives it. -/
def lastAddress? (node : String) : List String → Option String
  | [] => none
  | text :: rest => (lastAddress? node rest).or (addressIn? node text)

theorem lastAddress?_eq_none_iff {node : String} {texts : List String} :
    lastAddress? node texts = none ↔ ∀ text ∈ texts, ∀ address, ¬ Assigns text node address := by
  induction texts with
  | nil => simp [lastAddress?]
  | cons text rest ih =>
    have htext : addressIn? node text = none ↔ ∀ address, ¬ Assigns text node address := by
      simp only [← addressIn?_eq_some_iff, Option.eq_none_iff_forall_ne_some, ne_eq]
    simp [lastAddress?, Option.or_eq_none_iff, ih, htext, and_comm]

theorem lastAddress?_eq_some_iff {node address : String} {texts : List String} :
    lastAddress? node texts = some address ↔ ∃ front text rest, texts = front ++ text :: rest ∧
      Assigns text node address ∧ ∀ later ∈ rest, ∀ other, ¬ Assigns later node other := by
  induction texts with
  | nil => simp [lastAddress?]
  | cons head tail ih =>
    simp only [lastAddress?, Option.or_eq_some_iff, ih, lastAddress?_eq_none_iff, addressIn?_eq_some_iff]
    constructor
    · rintro (⟨front, text, rest, rfl, h⟩ | ⟨hnone, h⟩)
      · exact ⟨head :: front, text, rest, rfl, h⟩
      · exact ⟨[], head, tail, rfl, h, hnone⟩
    · rintro ⟨front, text, rest, heq, h, hlast⟩
      cases front with
      | nil =>
        obtain ⟨rfl, rfl⟩ := List.cons.inj heq
        exact .inr ⟨hlast, h⟩
      | cons first front =>
        obtain ⟨rfl, rfl⟩ := List.cons.inj heq
        exact .inl ⟨front, text, rest, rfl, h, hlast⟩

/-- A text that gives this node an address. -/
def IsAbout (node text : String) : Prop := ∃ address, Assigns text node address

theorem isAbout_iff {node text : String} : IsAbout node text ↔ (addressIn? node text).isSome = true := by
  simp only [IsAbout, ← addressIn?_eq_some_iff, Option.isSome_iff_exists]

instance (node : String) : DecidablePred (IsAbout node) := fun _ => decidable_of_iff _ isAbout_iff.symm

/-- Only the texts about a node matter for its address. -/
theorem lastAddress?_filter (node : String) (texts : List String) :
    lastAddress? node (texts.filter (IsAbout node)) = lastAddress? node texts := by
  induction texts with
  | nil => rfl
  | cons text rest ih =>
    by_cases h : IsAbout node text
    · simp [h, lastAddress?, ih]
    · have hnone : addressIn? node text = none := by simpa [isAbout_iff] using h
      simp [h, lastAddress?, ih, hnone]

/-! ## Reading the texts -/

section
variable {m m' : NodeAddresses} {texts : List String}

/-- One more text overrides what was known of its node, and of no other. -/
theorem get?_insert_of_split? {text name address : String} (h : split? text = some (name, address)) (node : String) :
    (m.insert name address).get? node = (addressIn? node text).or (m.get? node) := by
  rw [get?_insert]
  by_cases hn : node = name
  · simp [addressIn?, h, hn]
  · simp [addressIn?, h, hn, Ne.symm hn]

theorem get?_addAll (h : addAll m texts = .ok m') (node : String) :
    m'.get? node = (lastAddress? node texts).or (m.get? node) := by
  induction texts generalizing m with
  | nil =>
    cases h
    simp [lastAddress?]
  | cons text rest ih =>
    unfold addAll at h
    cases hs : split? text with
    | none => simp [hs] at h
    | some p =>
      obtain ⟨name, address⟩ := p
      simp only [hs] at h
      rw [ih h, get?_insert_of_split? hs, lastAddress?, Option.or_assoc]

theorem exists_addAll_iff : (∃ m', addAll m texts = .ok m') ↔ ∀ text ∈ texts, IsAssignment text := by
  induction texts generalizing m with
  | nil => simp [addAll]
  | cons text rest ih =>
    rw [List.forall_mem_cons]
    unfold addAll
    cases hs : split? text with
    | none => simp [split?_eq_none_iff.1 hs]
    | some p => simp [ih, isAssignment_iff.2 (Option.isSome_of_eq_some hs)]

/-- Texts are refused for the first one that gives nothing an address. -/
theorem addAll_eq_error_iff {f : Fault} : addAll m texts = .error f ↔ ∃ front bad rest, texts = front ++ bad :: rest ∧
    (∀ text ∈ front, IsAssignment text) ∧ ¬ IsAssignment bad ∧ f = .invalidNodeAddress bad := by
  induction texts generalizing m with
  | nil => simp [addAll]
  | cons text rest ih =>
    unfold addAll
    cases hs : split? text with
    | none =>
      have hbad := split?_eq_none_iff.1 hs
      constructor
      · intro h
        cases h
        exact ⟨[], text, rest, rfl, by simp, hbad, rfl⟩
      · rintro ⟨front, bad, after, heq, hfront, -, rfl⟩
        cases front with
        | nil =>
          obtain ⟨rfl, rfl⟩ := List.cons.inj heq
          rfl
        | cons first front =>
          obtain ⟨rfl, rfl⟩ := List.cons.inj heq
          exact absurd (hfront text List.mem_cons_self) hbad
    | some p =>
      have hgood : IsAssignment text := isAssignment_iff.2 (Option.isSome_of_eq_some hs)
      dsimp only
      rw [ih]
      constructor
      · rintro ⟨front, bad, after, rfl, hfront, hbad, rfl⟩
        exact ⟨text :: front, bad, after, rfl, List.forall_mem_cons.2 ⟨hgood, hfront⟩, hbad, rfl⟩
      · rintro ⟨front, bad, after, heq, hfront, hbad, rfl⟩
        cases front with
        | nil =>
          obtain ⟨rfl, rfl⟩ := List.cons.inj heq
          exact absurd hgood hbad
        | cons first front =>
          obtain ⟨rfl, rfl⟩ := List.cons.inj heq
          exact ⟨front, bad, after, rfl, fun t ht => hfront t (List.mem_cons_of_mem _ ht), hbad, rfl⟩

end

/-- A node is reached under the last address that it is given, else under its own name. -/
theorem address_of_parse {texts : List String} {m : NodeAddresses} (h : parse texts = .ok m) (node : String) :
    m.address node = (lastAddress? node texts).getD node := by
  have hempty : empty.get? node = none := rfl
  unfold address
  rw [get?_addAll h, hempty, Option.or_none]

/-- **The last address counts.** Texts are refused just if one of them gives nothing an address, and then for the first
such text. Otherwise a node is reached under the address of the last text about it, or under its own name if no text is
about it; so texts in another order, those about one node still one after the other as before, come to the same. -/
theorem last_address_counts (texts : List String) :
    (∀ f, parse texts = .error f ↔ ∃ front bad rest, texts = front ++ bad :: rest ∧
      (∀ text ∈ front, IsAssignment text) ∧ ¬ IsAssignment bad ∧ f = .invalidNodeAddress bad) ∧
    ((∃ m, parse texts = .ok m) ↔ ∀ text ∈ texts, IsAssignment text) ∧
    ∀ m, parse texts = .ok m →
      (∀ node front text rest address, texts = front ++ text :: rest → Assigns text node address →
        (∀ later ∈ rest, ∀ other, ¬ Assigns later node other) → m.address node = address) ∧
      (∀ node, (∀ text ∈ texts, ∀ address, ¬ Assigns text node address) → m.address node = node) ∧
      ∀ texts' : List String, texts'.Perm texts → (∀ node, texts'.filter (IsAbout node) = texts.filter (IsAbout node)) →
        ∃ m', parse texts' = .ok m' ∧ ∀ node, m'.address node = m.address node := by
  refine ⟨fun f => addAll_eq_error_iff, exists_addAll_iff, fun m hm => ⟨?_, ?_, ?_⟩⟩
  · intro node front text rest address htexts htext hlast
    have hfound := lastAddress?_eq_some_iff.2 ⟨front, text, rest, htexts, htext, hlast⟩
    rw [address_of_parse hm, hfound, Option.getD_some]
  · intro node hnone
    rw [address_of_parse hm, lastAddress?_eq_none_iff.2 hnone, Option.getD_none]
  · intro texts' hperm hsame
    have hgood : ∀ text ∈ texts', IsAssignment text := by
      intro text ht
      exact exists_addAll_iff.1 ⟨m, hm⟩ text (hperm.mem_iff.1 ht)
    obtain ⟨m', hm'⟩ := exists_addAll_iff (m := empty).2 hgood
    refine ⟨m', hm', fun node => ?_⟩
    rw [address_of_parse hm', address_of_parse hm, ← lastAddress?_filter, hsame, lastAddress?_filter]

/-- Two texts about `pve`, and one whose address has a `=` of its own. -/
def sampleTexts : List String := ["pve=10.0.0.1", "lab=[fe80::1]%id=2", "pve=10.0.0.2"]

theorem last_address_counts_pve :
    ∃ m, parse sampleTexts = .ok m ∧ m.address "pve" = "10.0.0.2" ∧ m.address "lab" = "[fe80::1]%id=2" ∧
      m.address "other" = "other" := by
  obtain ⟨m, hm⟩ := (last_address_counts sampleTexts).2.1.2 (by decide)
  obtain ⟨hlast, hnone, -⟩ := (last_address_counts sampleTexts).2.2 m hm
  have hno : ∀ node text : String, addressIn? node text = none → ∀ address, ¬ Assigns text node address := by
    intro node text h address ha
    rw [addressIn?_eq_some_iff.2 ha] at h
    cases h
  refine ⟨m, hm, ?_, ?_, ?_⟩
  · have hlast2 : ∀ later ∈ ([] : List String), ∀ other, ¬ Assigns later "pve" other := by simp
    exact hlast "pve" ["pve=10.0.0.1", "lab=[fe80::1]%id=2"] "pve=10.0.0.2" [] "10.0.0.2" rfl
      (addressIn?_eq_some_iff.1 rfl) hlast2
  · refine hlast "lab" ["pve=10.0.0.1"] _ _ _ rfl (addressIn?_eq_some_iff.1 rfl) ?_
    simpa using hno "lab" "pve=10.0.0.2" rfl
  · refine hnone "other" ?_
    simpa [sampleTexts] using ⟨hno "other" _ rfl, hno "other" _ rfl, hno "other" _ rfl⟩

end FilePlacement.NodeAddresses
