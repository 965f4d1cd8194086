import KeyHash.Binding
import KeyHash.Classification
import KeyHash.Complex.Basic
import KeyHash.Complex.Packing
import KeyHash.Complex.Size
import KeyHash.Complex.Text
import KeyHash.Decimal.Basic
import KeyHash.Decimal.Places
import KeyHash.Decimal.Shortest
import KeyHash.Description
import KeyHash.Float.Binary
import KeyHash.Float.Format
import KeyHash.Float.Text
import KeyHash.Hasher
import KeyHash.Key.Bits
import KeyHash.Key.Content
import KeyHash.Key.Fixed
import KeyHash.Key.Standard
import KeyHash.Key.Type
import KeyHash.Log
import KeyHash.Mix.Fixed
import KeyHash.Mix.Round
import KeyHash.Mix.ShortInput
import KeyHash.Printable
import KeyHash.Session
import KeyHash.Shape
import KeyHash.Strategy
import KeyHash.Table
import KeyHash.Text.CharRange
import KeyHash.Text.Extending
import KeyHash.Text.Quoted
import KeyHash.Text.Unprintable
import KeyHash.Word.LittleEndian
import KeyHash.Word.Product
import KeyHash.Word.Rotation
import KeyHash.Word.Wide
import KeyHash.Xxh3.Hash
import KeyHash.Xxh3.Long
import KeyHash.Xxh3.Medium
import KeyHash.Xxh3.Secret
import KeyHash.Xxh3.Short
import KeyHash.Proofs.Mix.Inverse
import KeyHash.Proofs.Mix.ShortInput
import KeyHash.Proofs.Mix.Injective
import KeyHash.Proofs.Mix.TwoBytes
import KeyHash.Proofs.Mix.SixteenBytes
import KeyHash.Proofs.Complex.Packing
import KeyHash.Proofs.Key.Pattern
import KeyHash.Proofs.Key.Standard
import KeyHash.Proofs.Key.Collision
import KeyHash.Proofs.Float.Equality
import KeyHash.Proofs.Key.Equality
import KeyHash.Proofs.Key.SignedZero
import KeyHash.Proofs.Table.Membership
import KeyHash.Proofs.Table.Count
import KeyHash.Proofs.Binding.Outcome
import KeyHash.Proofs.Session.Run
import KeyHash.Proofs.Table.Load
import KeyHash.Proofs.Word.Spread
import KeyHash.Proofs.Word.SideBySide
import KeyHash.Proofs.Xxh3.Scramble
import KeyHash.Proofs.Xxh3.Short
import KeyHash.Proofs.Shape.Support
import KeyHash.Proofs.Text.Digits
import KeyHash.Proofs.Shape.Text
import KeyHash.Proofs.Decimal.Positional
import KeyHash.Proofs.Decimal.Shortest
import KeyHash.Proofs.Float.Text
import KeyHash.Proofs.Complex.Text
