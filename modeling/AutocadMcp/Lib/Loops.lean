import Mathlib

/-!
# Walks around loops of lines

Each line has two ends, and a relation matches ends of different lines. Where every end
of a connected set of lines has one match, a walk that enters a line at the match of the
end it left and leaves it at the other end comes through each line once and closes at the
end it started from.
-/

namespace AutocadMcp

/-- An end of a line: side 0 is its start and side 1 its end. -/
structure Occurrence (ι : Type) where
  line : ι
  side : Fin 2

/-- A line has an end; the sides of every module carry this instance. -/
instance sides_neZero : NeZero 2 := ⟨Nat.succ_ne_zero 1⟩

namespace Occurrence

variable {ι : Type}

instance [LinearOrder ι] : LinearOrder (Occurrence ι) :=
  LinearOrder.lift' (fun o => toLex (o.line, o.side)) fun a b h => by
    cases a
    cases b
    simpa using h

def flip (o : Occurrence ι) : Occurrence ι := ⟨o.line, 1 - o.side⟩

@[simp] theorem line_flip (o : Occurrence ι) : o.flip.line = o.line := rfl

@[simp] theorem flip_flip (o : Occurrence ι) : o.flip.flip = o := by
  obtain ⟨line, side⟩ := o
  fin_cases side <;> simp [flip]

theorem flip_ne (o : Occurrence ι) : o.flip ≠ o := by
  obtain ⟨line, side⟩ := o
  fin_cases side <;> simp [flip]

/-- A line has two ends. -/
theorem eq_or_eq_flip {a b : Occurrence ι} (h : a.line = b.line) : a = b ∨ a = b.flip := by
  obtain ⟨line, side⟩ := a
  obtain ⟨line', side'⟩ := b
  obtain rfl : line = line' := h
  fin_cases side <;> fin_cases side' <;> simp [flip]

end Occurrence

section

variable {ι : Type}

/-- Every end of the lines has one match, at another of the lines, and no part of the lines is cut
off from the rest. -/
structure Loop (lines : Finset ι) (Match : Occurrence ι → Occurrence ι → Prop) : Prop where
  symm : ∀ {a b}, Match a b → Match b a
  apart : ∀ {a b}, Match a b → a.line ≠ b.line
  closed : ∀ {a b}, Match a b → a.line ∈ lines → b.line ∈ lines
  matched : ∀ a, a.line ∈ lines → ∃ b, Match a b
  unique : ∀ {a b c}, a.line ∈ lines → Match a b → Match a c → b = c
  connected : ∀ part ⊆ lines, part.Nonempty →
    (∀ a b, Match a b → a.line ∈ part → b.line ∈ part) → part = lines

/-- A loop stays one when the ends of some of its lines change places. -/
theorem Loop.turned {lines : Finset ι} {Match : Occurrence ι → Occurrence ι → Prop}
    (h : Loop lines Match) {turn : Occurrence ι → Occurrence ι}
    (hturn : ∀ a, turn (turn a) = a) (hline : ∀ a, (turn a).line = a.line) :
    Loop lines fun a b => Match (turn a) (turn b) where
  symm := h.symm
  apart hab := by
    have hne := h.apart hab
    rwa [hline, hline] at hne
  closed hab ha := by
    have hb := h.closed hab (by rwa [hline])
    rwa [hline] at hb
  matched a ha := by
    obtain ⟨b, hb⟩ := h.matched (turn a) (by rwa [hline])
    exact ⟨turn b, by rwa [hturn]⟩
  unique {a b c} ha hb hc := by
    have hsame : turn b = turn c := h.unique (by rwa [hline]) hb hc
    rw [← hturn b, hsame, hturn]
  connected part hpart hne hclosed := by
    refine h.connected part hpart hne fun a b hab ha => ?_
    have hb := hclosed (turn a) (turn b) (by rwa [hturn, hturn]) (by rwa [hline])
    rwa [hline] at hb

/-- It is one of the matches among its own lines. -/
theorem Loop.restrict {lines : Finset ι} {Match Match' : Occurrence ι → Occurrence ι → Prop}
    (h : Loop lines Match)
    (hiff : ∀ a b, Match' a b ↔ a.line ∈ lines ∧ b.line ∈ lines ∧ Match a b) :
    Loop lines Match' where
  symm hab := by
    rw [hiff] at hab ⊢
    exact ⟨hab.2.1, hab.1, h.symm hab.2.2⟩
  apart hab := h.apart ((hiff _ _).mp hab).2.2
  closed hab ha := h.closed ((hiff _ _).mp hab).2.2 ha
  matched a ha := by
    obtain ⟨b, hb⟩ := h.matched a ha
    exact ⟨b, (hiff a b).mpr ⟨ha, h.closed hb ha, hb⟩⟩
  unique ha hb hc := h.unique ha ((hiff _ _).mp hb).2.2 ((hiff _ _).mp hc).2.2
  connected part hpart hne hclosed := by
    refine h.connected part hpart hne fun a b hab ha => hclosed a b ((hiff a b).mpr ?_) ha
    exact ⟨hpart ha, h.closed hab (hpart ha), hab⟩

/-- The ends by which a walk left the lines, the latest first, each line entered at the match of
the end left before. -/
structure Trail (lines : Finset ι) (Match : Occurrence ι → Occurrence ι → Prop)
    (trail : List (Occurrence ι)) : Prop where
  mem : ∀ a ∈ trail, a.line ∈ lines
  nodup : (trail.map Occurrence.line).Nodup
  chain : trail.IsChain fun later earlier => Match earlier later.flip

variable {lines : Finset ι} {Match : Occurrence ι → Occurrence ι → Prop}
  {current first : Occurrence ι} {earlier : List (Occurrence ι)}

theorem exists_later {trail : List (Occurrence ι)}
    (h : (current :: trail).IsChain fun later earlier => Match earlier later.flip) :
    ∀ a ∈ trail, ∃ b ∈ current :: trail, Match a b.flip := by
  induction trail generalizing current with
  | nil => simp
  | cons next trail ih =>
      rw [List.isChain_cons_cons] at h
      intro a ha
      rcases List.mem_cons.mp ha with rfl | ha
      · exact ⟨current, List.mem_cons_self, h.1⟩
      · obtain ⟨b, hb, hmatch⟩ := ih h.2 a ha
        exact ⟨b, List.mem_cons_of_mem _ hb, hmatch⟩

theorem exists_earlier {trail : List (Occurrence ι)}
    (h : (current :: trail).IsChain fun later earlier => Match earlier later.flip) :
    ∀ a ∈ current :: trail, a = (current :: trail).getLast (List.cons_ne_nil _ _) ∨
      ∃ b ∈ trail, Match b a.flip := by
  induction trail generalizing current with
  | nil => simp
  | cons next trail ih =>
      rw [List.isChain_cons_cons] at h
      intro a ha
      rcases List.mem_cons.mp ha with rfl | ha
      · exact Or.inr ⟨next, List.mem_cons_self, h.1⟩
      · rcases ih h.2 a ha with hlast | ⟨b, hb, hmatch⟩
        · exact Or.inl hlast
        · exact Or.inr ⟨b, List.mem_cons_of_mem _ hb, hmatch⟩

/-- A walk that comes back to one of its lines comes back to the end it started from. -/
theorem Trail.returns (hloop : Loop lines Match) (h : Trail lines Match (current :: earlier))
    {b : Occurrence ι} (hmatch : Match current b)
    (hback : b.line ∈ (current :: earlier).map Occurrence.line) :
    b = ((current :: earlier).getLast (List.cons_ne_nil _ _)).flip := by
  have hnodup := h.nodup
  rw [List.map_cons, List.nodup_cons] at hnodup
  have hcurrent : current.line ∈ lines := h.mem current List.mem_cons_self
  obtain ⟨x, hx, hline⟩ := List.mem_map.mp hback
  rcases Occurrence.eq_or_eq_flip hline.symm with rfl | rfl
  · -- an end that was left before has a later line as its match, which is not the current end
    exfalso
    rcases List.mem_cons.mp hx with rfl | hx'
    · exact hloop.apart hmatch rfl
    · obtain ⟨y, hy, hlater⟩ := exists_later h.chain b hx'
      have hsame : y.flip = current :=
        hloop.unique (h.mem b hx) hlater (hloop.symm hmatch)
      rcases List.mem_cons.mp hy with rfl | hy'
      · exact y.flip_ne hsame
      · exact hnodup.1 (List.mem_map.mpr ⟨y, hy', by rw [← hsame, Occurrence.line_flip]⟩)
  · rcases exists_earlier h.chain x hx with hlast | ⟨z, hz, hearlier⟩
    · rw [← hlast]
    · exfalso
      have hsame : z = current :=
        hloop.unique (a := x.flip) (h.mem x hx) (hloop.symm hearlier) (hloop.symm hmatch)
      exact hnodup.1 (List.mem_map.mpr ⟨z, hz, by rw [hsame]⟩)

/-- So it does so with all the lines behind it. -/
theorem Trail.covers [DecidableEq ι] (hloop : Loop lines Match)
    (h : Trail lines Match (current :: earlier)) {b : Occurrence ι} (hmatch : Match current b)
    (hback : b.line ∈ (current :: earlier).map Occurrence.line) :
    ((current :: earlier).map Occurrence.line).toFinset = lines := by
  have hreturn := h.returns hloop hmatch hback
  refine hloop.connected _ (fun v hv => ?_) ⟨current.line, by simp⟩ fun a c hac ha => ?_
  · rw [List.mem_toFinset] at hv
    obtain ⟨x, hx, rfl⟩ := List.mem_map.mp hv
    exact h.mem x hx
  · rw [List.mem_toFinset] at ha ⊢
    have hmem : ∀ {x}, x ∈ current :: earlier →
        x.line ∈ (current :: earlier).map Occurrence.line := fun hx => List.mem_map_of_mem hx
    obtain ⟨x, hx, hline⟩ := List.mem_map.mp ha
    have hlines : a.line ∈ lines := hline ▸ h.mem x hx
    rcases Occurrence.eq_or_eq_flip hline.symm with rfl | rfl
    · rcases List.mem_cons.mp hx with rfl | hx'
      · rw [hloop.unique hlines hac hmatch]
        exact hback
      · obtain ⟨y, hy, hlater⟩ := exists_later h.chain a hx'
        rw [hloop.unique hlines hac hlater]
        exact hmem (x := y) hy
    · rcases exists_earlier h.chain x hx with hlast | ⟨z, hz, hearlier⟩
      · rw [← hlast] at hreturn
        rw [hloop.unique hlines hac (hloop.symm (hreturn ▸ hmatch))]
        exact hmem List.mem_cons_self
      · rw [hloop.unique hlines hac (hloop.symm hearlier)]
        exact hmem (List.mem_cons_of_mem _ hz)

/-- Otherwise the walk goes on. -/
theorem Trail.step (hloop : Loop lines Match) (h : Trail lines Match (current :: earlier))
    {b : Occurrence ι} (hmatch : Match current b)
    (hnew : b.line ∉ (current :: earlier).map Occurrence.line) :
    Trail lines Match (b.flip :: current :: earlier) where
  mem := by
    rw [List.forall_mem_cons]
    exact ⟨hloop.closed (b := b) hmatch (h.mem current List.mem_cons_self), h.mem⟩
  nodup := by
    rw [List.map_cons, List.nodup_cons]
    exact ⟨hnew, h.nodup⟩
  chain := by
    rw [List.isChain_cons_cons, Occurrence.flip_flip]
    exact ⟨hmatch, h.chain⟩

theorem Trail.start {o : Occurrence ι} (h : o.line ∈ lines) : Trail lines Match [o] where
  mem := by simpa using h
  nodup := List.nodup_singleton _
  chain := List.isChain_singleton _

end

end AutocadMcp
