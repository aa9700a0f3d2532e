import Mathlib.Data.List.Basic
import OpenPpp2.Lib.Decimal

/-!
# The policy configuration

`PolicyModel.h`: what a policy configuration declares.
-/

namespace OpenPpp2.Policy

/-- A `std::string`. -/
abbrev Text := List UInt8

def text (literal : String) : Text := literal.toList.map fun char => UInt8.ofNat char.toNat

inductive Action where
  | direct
  | proxy
  | reject
  deriving DecidableEq, Repr

def Action.code : Action → Nat
  | .direct => 0
  | .proxy => 1
  | .reject => 2

structure Server where
  uri : Text := []
  addresses : List Text := []
  bootstrap : List Text := []
  deriving DecidableEq, Repr

structure ServerRef where
  structured : Bool := false
  index : Nat := 0
  deriving DecidableEq, Repr

structure Resolver where
  via : Action := .proxy
  servers : List Text := []
  serverSpecs : List Server := []
  serverOrder : List ServerRef := []
  deriving DecidableEq, Repr

structure RuleSet where
  format : Text := []
  path : Text := []
  url : Text := []
  tag : Text := []
  sha256 : Text := []
  text : Text := []
  materialized : Bool := false
  deriving DecidableEq, Repr

structure Source where
  version : Int := 2
  configPath : Text := []
  basePath : Text := []
  rulesPath : Text := []
  rulesText : Text := []
  ipv6 : Text := text "block"
  dnsMode : Text := text "auto"
  fakeIpRange : Text := text "198.18.0.0/16"
  fakeIpStorage : Text := text "./dns-fake-ip"
  fakeIpIdentity : Text := []
  tcpDomainSniff : Bool := false
  resolvers : List (Text × Resolver) := []
  ruleSets : List (Text × RuleSet) := []
  updatesEnabled : Bool := false
  updatesInterval : Text := text "24h"
  updatesVia : Action := .proxy
  updatesBootstrap : List Text := []
  updatesAllowHttp : Bool := false
  deriving DecidableEq, Repr

open Lib.Decimal Lib.LengthPrefixed List

def part (value : Text) : Text := block 58 10 value

/-- `std::to_string` of an `int`. -/
def intText (value : Int) : Text :=
  if value < 0 then 45 :: decimal value.natAbs else decimal value.natAbs

def flagText (value : Bool) : Text := if value then text "1" else text "0"

def Server.parts (server : Server) : List Text :=
  server.uri :: (server.addresses ++ server.bootstrap)

def ServerRef.parts (reference : ServerRef) : List Text :=
  [if reference.structured then text "structured" else text "legacy", decimal reference.index]

def resolverParts (entry : Text × Resolver) : List Text :=
  entry.1 :: decimal entry.2.via.code :: (entry.2.servers ++
    entry.2.serverSpecs.flatMap Server.parts ++ entry.2.serverOrder.flatMap ServerRef.parts)

def ruleSetParts (entry : Text × RuleSet) : List Text :=
  [entry.1, entry.2.format, entry.2.path, entry.2.url, entry.2.tag, entry.2.sha256]

/-- The values `ImmutableFingerprint` writes, in its order. -/
def Source.parts (source : Source) : List Text :=
  [intText source.version, source.configPath, source.basePath, source.rulesPath, source.ipv6,
    source.dnsMode, source.fakeIpRange, source.fakeIpStorage, source.fakeIpIdentity,
    flagText source.tcpDomainSniff, flagText source.updatesEnabled, source.updatesInterval,
    decimal source.updatesVia.code, flagText source.updatesAllowHttp] ++
  source.updatesBootstrap ++ source.resolvers.flatMap resolverParts ++
  source.ruleSets.flatMap ruleSetParts

def Source.canonical (source : Source) : Text := source.parts.flatMap part

/-- `ImmutableFingerprint`, over the hash `PolicySha256`. -/
def immutableFingerprint (sha256 : Text → Text) (source : Source) : Text := sha256 source.canonical

variable {first second : List Server}

section

variable {sha256 : Text → Text} (collisionFree : Function.Injective sha256)
include collisionFree

variable {declared candidate : Source}

end

end OpenPpp2.Policy
