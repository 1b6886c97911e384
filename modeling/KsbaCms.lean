import KsbaCms.Model.Basic
import KsbaCms.Model.Asn
import KsbaCms.Model.Der
import KsbaCms.Model.Templates
import KsbaCms.Model.Cms
import KsbaCms.Model.Builder
import KsbaCms.Model.Engine
import KsbaCms.Model.Accessors
import KsbaCms.Model.Api
import KsbaCms.Proof.Frame
import KsbaCms.Proof.Engine
import KsbaCms.Proof.StopReason
import KsbaCms.Proof.Dispatch
import KsbaCms.Proof.Cache
import KsbaCms.Proof.Faults
import KsbaCms.Proof.Writes
import KsbaCms.Proof.BuildRun
import KsbaCms.Proof.Bounds
import KsbaCms.Proof.Layout
import KsbaCms.Proof.Setup
import KsbaCms.Proof.SignedAttrs
import KsbaCms.Proof.Stores
import KsbaCms.Proof.HashedAttrs
import KsbaCms.Proof.DigestSet
import KsbaCms.Proof.ParseRun
import KsbaCms.Proof.Signers
import KsbaCms.Proof.BuildProgress
