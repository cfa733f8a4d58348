import Mathlib.Data.List.Forall2
import Tacacs.Cli.Accounter

/-!
# What an accounting record gives away

A record keeps every argument of the request in its place, and only values are masked
(`alike_mask`). Which ones is decided by how the name begins. Four names are declared as
carrying secrets, and none of them begins like that: they end in the word.

So two requests that differ in secrets only leave the same record just if they do not differ at
these four names.
-/

set_option autoImplicit false

namespace Tacacs
namespace Proof
namespace Cli

open GoSem
open Tacacs.Server (AcctContext hasPrefix)
open Tacacs.Cli (toLower isSensitive sensitiveArgPrefixes mask fromContext)

/-! ## Which names carry secrets -/

/-- The name begins with `password`, `secret` or `token`, in any letter case. -/
def Prefixed (name : GoString) : Prop :=
  ∃ p ∈ [lit "password", lit "secret", lit "token"], p <+: toLower name

/-- The name is one of the four that are declared as secret-bearing, in any letter case. -/
def Declared (name : GoString) : Prop :=
  toLower name ∈
    [argNameGwPassword, argNameNasPassword, argNameL2tpTunnelPassword, argNameSendSecret]

def CarriesSecret (name : GoString) : Prop := Prefixed name ∨ Declared name

theorem isSensitive_iff (name : GoString) : isSensitive name = true ↔ Prefixed name := by
  unfold isSensitive Prefixed hasPrefix
  simp only [List.any_eq_true, List.isPrefixOf_iff_prefix]
  exact Iff.rfl

/-- No declared name begins with one of the words. -/
theorem not_sensitive_of_declared {name : GoString} (h : Declared name) :
    isSensitive name = false := by
  have hall : ∀ low ∈
      [argNameGwPassword, argNameNasPassword, argNameL2tpTunnelPassword, argNameSendSecret],
      (sensitiveArgPrefixes.any fun p => hasPrefix low p) = false := by
    decide
  exact hall _ h

/-! ## Arguments that differ in a secret only -/

structure Alike (a b : Argument) : Prop where
  mandatory : b.mandatory = a.mandatory
  name : b.name = a.name
  value : ¬CarriesSecret a.name → b.value = a.value

/-- Where the name is a declared one, the values are the same. -/
def SameDeclared (a b : Argument) : Prop := Declared a.name → b.value = a.value

theorem alike_mask (a : Argument) : Alike a (mask a) := by
  unfold mask
  by_cases h : isSensitive a.name = true
  · rw [if_pos h]
    exact ⟨rfl, rfl, fun hno => absurd (.inl ((isSensitive_iff a.name).mp h)) hno⟩
  · rw [if_neg h]
    exact ⟨rfl, rfl, fun _ => rfl⟩

theorem mask_eq_iff {a b : Argument} (h : Alike a b) : mask a = mask b ↔ SameDeclared a b := by
  obtain ⟨mandatory, name, value⟩ := a
  obtain ⟨mandatory', name', value'⟩ := b
  obtain ⟨rfl, rfl, hvalue⟩ := h
  dsimp only at hvalue
  unfold mask SameDeclared
  dsimp only
  by_cases hs : isSensitive name' = true
  · rw [if_pos hs, if_pos hs]
    refine iff_of_true rfl fun hd => ?_
    rw [not_sensitive_of_declared hd] at hs
    cases hs
  · rw [if_neg hs, if_neg hs, Argument.mk.injEq]
    constructor
    · rintro ⟨-, -, heq⟩ -
      exact heq.symm
    · intro hd
      refine ⟨rfl, rfl, ?_⟩
      by_cases hdec : Declared name'
      · exact (hd hdec).symm
      · refine (hvalue ?_).symm
        rintro (hp | hd')
        · exact hs ((isSensitive_iff name').mpr hp)
        · exact hdec hd'

theorem map_mask_eq_iff {as bs : List Argument} (h : List.Forall₂ Alike as bs) :
    as.map mask = bs.map mask ↔ List.Forall₂ SameDeclared as bs := by
  induction h with
  | nil => exact iff_of_true rfl .nil
  | cons hab _ ih => rw [List.map_cons, List.map_cons, List.cons.injEq, mask_eq_iff hab, ih,
      List.forall₂_cons]

/-! ## Records -/

/-- The requests differ only in values of arguments that carry secrets. -/
structure DifferInSecrets (ac ac' : AcctContext) : Prop where
  others : ac' = { ac with args := ac'.args }
  args : List.Forall₂ Alike ac.args ac'.args

/-- **What a record gives away.** Requests that differ in secrets only leave the same record, but
    for the time, if and only if they agree at the four declared names. And a record lists the
    arguments of its request as they are, secrets excepted. -/
theorem record_hides_secrets_iff (now now' : GoString) :
    (∀ ac ac', DifferInSecrets ac ac' →
      ({ fromContext now ac with timestamp := now' } = fromContext now' ac' ↔
        List.Forall₂ SameDeclared ac.args ac'.args)) ∧
    ∀ ac, List.Forall₂ Alike ac.args (fromContext now ac).args := by
  constructor
  · rintro ac ac' ⟨hothers, hargs⟩
    rw [← map_mask_eq_iff hargs, hothers]
    unfold fromContext
    dsimp only
    rw [Tacacs.Cli.AcctRecord.mk.injEq]
    simp only [true_and]
  · intro ac
    unfold fromContext
    rw [List.forall₂_map_right_iff, List.forall₂_same]
    exact fun a _ => alike_mask a

def callback (secret : String) : AcctContext where
  sessionID := 1
  seqNo := 1
  flags := acctFlagStart
  method := 0
  privLvl := 0
  type := 0
  service := 0
  user := lit "alice"
  port := lit "tty0"
  remAddr := lit "192.0.2.1"
  args := [⟨true, argNameSendSecret, lit secret⟩]
  remoteAddr := lit "192.0.2.2"

/-- `send-secret` goes into the log as it is. -/
theorem record_shows_secret :
    DifferInSecrets (callback "alpha") (callback "gamma") ∧
      (fromContext [] (callback "alpha")).args = [⟨true, lit "send-secret", lit "alpha"⟩] ∧
      fromContext [] (callback "alpha") ≠ fromContext [] (callback "gamma") := by
  have hdecl : Declared argNameSendSecret := by
    unfold Declared
    decide
  refine ⟨⟨rfl, .cons ⟨rfl, rfl, fun hno => absurd (.inr hdecl) hno⟩ .nil⟩, by decide, by decide⟩

end Cli
end Proof
end Tacacs
