import SentinelGpt.TransactionRuns

/-! Programs on a part of a store, as programs on the whole of it. -/
namespace ReadCommitted
variable {σ ω ℓ σ' ω' ℓ' ε α : Type}

/- What the part sees of the whole, and what its writes and its statements are there. -/
structure Part (σ ω ℓ σ' ω' ℓ' : Type) where
  get : σ' → σ
  write : ω → ω'
  site : ℓ → ℓ'

def Program.within (part : Part σ ω ℓ σ' ω' ℓ') : Program σ ω ℓ ε α → Program σ' ω' ℓ' ε α
  | .pure a => .pure a
  | .raise e => .raise e
  | .exec site writes next => .exec (part.site site) (fun s => (writes (part.get s)).map part.write)
      fun s => (next (part.get s)).within part
  | .commit site next => .commit (part.site site) (next.within part)
  | .rollback next => .rollback (next.within part)
  | .call site next => .call (part.site site) (next.within part)

structure Part.Carries (part : Part σ ω ℓ σ' ω' ℓ') (C : Contract σ ω ℓ) (D : Contract σ' ω' ℓ') : Prop where
  exec : ∀ log log' site v ws, D.assume log' (.exec (part.site site) v (ws.map part.write)) →
    C.assume log (.exec site (part.get v) ws) ∧ (C.guarantee log (.exec site (part.get v) ws) →
      D.guarantee log' (.exec (part.site site) v (ws.map part.write)))
  commit : ∀ log log' site, D.assume log' (.commit (part.site site)) → C.assume log (.commit site) ∧
    (C.guarantee log (.commit site) → D.guarantee log' (.commit (part.site site)))
  rollback : ∀ log log', D.assume log' .rollback → C.assume log .rollback ∧
    (C.guarantee log .rollback → D.guarantee log' .rollback)
  call : ∀ log log' site, D.assume log' (.call (part.site site)) → C.assume log (.call site) ∧
    (C.guarantee log (.call site) → D.guarantee log' (.call (part.site site)))

section Rules
variable {part : Part σ ω ℓ σ' ω' ℓ'} {C : Contract σ ω ℓ} {D : Contract σ' ω' ℓ'}

theorem wpWithin (carries : part.Carries C D) {p : Program σ ω ℓ ε α} {post : Except ε α → Prop}
    {log : List (Event σ ω ℓ)} (log' : List (Event σ' ω' ℓ')) (holds : wp C log p fun _ r => post r) :
    wp D log' (p.within part) fun _ r => post r := by
  induction p generalizing log log' with
  | pure a => exact holds
  | raise e => exact holds
  | exec site writes next ih =>
    intro v assumed
    obtain ⟨assumed, keeps⟩ := carries.exec log log' site v (writes (part.get v)) assumed
    obtain ⟨good, rest⟩ := holds (part.get v) assumed
    exact ⟨keeps good, ih (part.get v) _ rest⟩
  | commit site next ih =>
    intro assumed
    obtain ⟨assumed, keeps⟩ := carries.commit log log' site assumed
    obtain ⟨good, rest⟩ := holds assumed
    exact ⟨keeps good, ih _ rest⟩
  | rollback next ih =>
    intro assumed
    obtain ⟨assumed, keeps⟩ := carries.rollback log log' assumed
    obtain ⟨good, rest⟩ := holds assumed
    exact ⟨keeps good, ih _ rest⟩
  | call site next ih =>
    intro assumed
    obtain ⟨assumed, keeps⟩ := carries.call log log' site assumed
    obtain ⟨good, rest⟩ := holds assumed
    exact ⟨keeps good, ih _ rest⟩

theorem Meets.within (carries : part.Carries C D) {p : Program σ ω ℓ ε α} {Q : α → Prop} (meets : Meets C p Q) :
    Meets D (p.within part) Q := by
  intro log
  exact wpWithin carries log (meets [])

end Rules
end ReadCommitted
