import PockCore.Api.Calls
import PockCore.Api.Categories
import PockCore.Api.Errors
import PockCore.Backup.Basic
import PockCore.Backup.Exact
import PockCore.Crypto.Asymmetric
import PockCore.Crypto.Primitives
import PockCore.Crypto.Reference
import PockCore.Crypto.Symmetric
import PockCore.Decoders
import PockCore.Error
import PockCore.Formats
import PockCore.Item.Access
import PockCore.Item.Basic
import PockCore.Item.Flows
import PockCore.Item.Messages
import PockCore.Item.PublicBlobs
import PockCore.Item.Regrant
import PockCore.KeyLog.Arrangement
import PockCore.KeyLog.Basic
import PockCore.KeyLog.Certificate
import PockCore.KeyLog.Custodians
import PockCore.KeyLog.Encoding
import PockCore.KeyLog.Spellings
import PockCore.KeyLog.Tree
import PockCore.Lib.Base64
import PockCore.Lib.Bytes
import PockCore.Lib.Counting
import PockCore.Lib.HashTree
import PockCore.Lib.Hex
import PockCore.Lib.Lockbox
import PockCore.Lib.Machine
import PockCore.Lib.Outcome
import PockCore.Lib.Text
import PockCore.Nscrypto.Basic
import PockCore.Nscrypto.Exact
import PockCore.Nscrypto.Generated
import PockCore.Nscrypto.Rewrap
import PockCore.Openers
import PockCore.Share.Acceptance
import PockCore.Share.Basic
import PockCore.Share.KeyBlob
import PockCore.Share.RoundTrip
import PockCore.UniffiApi
import PockCore.Vault.Account
import PockCore.Vault.Auk
import PockCore.Vault.Calls
import PockCore.Vault.Clients
import PockCore.Vault.Cost
import PockCore.Vault.Flows
import PockCore.Vault.Foreign
import PockCore.Vault.Invariant
import PockCore.Vault.Malformed
import PockCore.Vault.MasterKey
import PockCore.Vault.Minting
import PockCore.Vault.Published
import PockCore.Vault.Reencrypt
import PockCore.Vault.Routes
import PockCore.Vault.Sharing
import PockCore.Vault.Slots
import PockCore.Vault.Wraps
import PockCore.Versions
import PockCore.WrongCredential
