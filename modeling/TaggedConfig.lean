import TaggedConfig.Config.Access
import TaggedConfig.Config.Merging
import TaggedConfig.Config.Summary
import TaggedConfig.File.Tree
import TaggedConfig.Proofs.CaseSelection
import TaggedConfig.Proofs.Chains
import TaggedConfig.Proofs.Commuting
import TaggedConfig.Proofs.DocumentOrder.Variables
import TaggedConfig.Proofs.ExactConversion
import TaggedConfig.Proofs.Failing.PlainKeys
import TaggedConfig.Proofs.Fallback
import TaggedConfig.Proofs.InTurn
import TaggedConfig.Proofs.Json.ReadBack
import TaggedConfig.Proofs.KeysAlike
import TaggedConfig.Proofs.NestedTotals
import TaggedConfig.Proofs.Nesting
import TaggedConfig.Proofs.OneLine.Spellings
import TaggedConfig.Proofs.Options
import TaggedConfig.Proofs.Overrides.Hiding
import TaggedConfig.Proofs.Paths.HomeDirectory
import TaggedConfig.Proofs.ReadOnly
import TaggedConfig.Proofs.Reloading
import TaggedConfig.Proofs.RoundTrip.Loading
import TaggedConfig.Proofs.RunningTotals
import TaggedConfig.Proofs.Sessions
import TaggedConfig.Proofs.Shapes
import TaggedConfig.Proofs.Splicing.TopLevel
import TaggedConfig.Proofs.Summaries
import TaggedConfig.Proofs.TagEffects
import TaggedConfig.Proofs.Templates.LeapSeconds
import TaggedConfig.Proofs.TypedText
import TaggedConfig.Value.Json
import TaggedConfig.Value.Yaml
