/-
Directions of characters as far as domains tell them apart: `L` from left to right, `R`
and `A` from right to left, `N` digits within such text, `E` other digits, `M` marks that
take no space, `F` characters that may stand in either direction, `X` all others.
-/
import GuidedLogin.Unicode.Table

namespace GuidedLogin.Unicode

def directions : Table := Table.ofText "0F 9X 5F eX 5F fE aF 7L qF 6L qF aX 1F 10L 1F 7E 2F 1L 1F 3E 1L 1F 5L nF 1L vF 1L chF 2L 7F eL
2F eL 5F 9L 1F hM 34L 4F 2L 8F 1L 5F 2L 1F 1L 32F 1L 3wM 7L 74F 1L 2F 3R 1M 19R 1M 1R 1M 2R 1M
2R 1M 1R 1kN 6F 2A 1F 2A 1F 1A 1F 2M bA 1cM lN aF 1N 2A 3M 1A 2tM 7N 1F 1M 6A 2M 2F 1M 4A 2E aA
nM 1A uM rA 2jM bA fR 17M 9R 2F 4R 3M 1R oM 4R 1M 9R 1M 3R 1M 5R 17M 3R 4A 1cN 2A 6M 8A 16M oN
1M wL 1jM 1L 1M 1L 4M 8L 4M 1L 3M 7L aM 2L tM 1L 1mM 1L 4M 4L 8M 1L kM 2L eF 2L 7F 1L 2M 1L 2M
2L 1lM 1L 4M 2L 4M 2L 2M 3L 3M 1L uM 2L 3M 1L bM 2L 1lM 1L 4M 5L 1M 2L 4M 1L kM 2L dF 1L 8M 6L
1M 1L 1mM 1L 2M 1L 1M 4L 8M 1L 7M 2L bM 2L uM 1L 1pM 1L cM 1L 11F 8L 5M 1L 3M 1L 1jM 1L 1M 3L 5M
3L 1M 4L 7M 2L bM 2L kF 7L 2M 1L 1mM 1L fM 2L kM 2L sM 2L 1lM 2L 4M 4L 8M 1L kM 2L tM 1L 20M 1L
7M 3L 1M 1L 2iM 1L 2M 7L 4F 1L 7M 8L 2qM 1L 2M 9L bM 7L 21M 2L rM 1L 1M 1L 1M 1F 4L 1fM eL 1M 5L
1M 2L 5M bL 1M 10L 9M 1L 2uM 4L 1M 6L 1M 2L 2M 2L pM 2L 4M 3L gM 4L dM 1L 2M 2L 6M 1L fM 1L jjM
3L 1cF aL 2uF 1L hrX 1L qF 2L 39M 3L tM 2L uM 2L uM 2L 1sM 2L 1M 7L 8M 1L 2M bL 7F 1L 1M 1L iF
aL 6F bM 3F 1M 1L 39M 2L yM 1L 3aM 3L 4M 2L 9M 1L 6M 3L 4F 1L 3F 2L 48F yL nM 2L 2M 1L 1mM 1L 1M
7L 1M 1L 1M 1L 2M 8L 6M aL 2M 1L 1cM vL 1dM 4L 1cM 1L 1M 5L 1M 1L 5M 1L 14M 9L cM 2L wM 4L 2M 2L
1M 3L 1kM 1L 1M 2L 3M 1L 1M 3L 1mM 8L 2M 2L 48M 3L 1M dL 1M 7L 4M 1L 6M 1L 3M 2L 5iM 1sL cdF 1L
1F 3L bF 3L dF 3L dF 3L dF 2L 1X bF 3L 1R 1F oX 7F 1cX 1F 6X 4F 6E 1L 3E 6F 5L 1E aF 5L hF 1cM
xL fF 2L 1F 4L 1F 2L aF 1L 1F 3L 5F 6L 1F 1L 1F 1L 1F 1L 4F 1L bF 2L 4F 5L 5F 4L 2F gL 15F 3L 4F
bqL 1xF qL 1F 41L pF bL lF 14E kL 26F ciL 1F 9fL 74F hgL 2F wL 1F 2xL 6dF 6L 4M 3L 7F 7L 3jM 1L
2oM wF 2mL yF qL 1F 2hL cF 5yL qF cL 4X 1F 4L 3F pL 9M 4L 2F 1L 5F 2L 5F 3L 2hM 2F 2L 3F 1L 2iF
1L 5gF 10L 1lF 2L 1dF gL sF 3L 1eF fL cF 4L 4nF 4L 2rF 2L vF 1L 534F 1sL h3kF 1jL 92F 3L 2nM 4F
1M aF 2L uM 2L 28M 2L eF yL 2uF 1L 3dM 1L 3M 1L 4M 1L pM 2L 1F 4M 1L bF 2L 1mF 4L 24M 2L qM iL
dM 1L 12M 8L pM bL 1aM 3L 1cM 1L 2M 4L 2M 2L 13M 1L 1vM 6L 2M 2L 2M 2L cM 1L 8M 1L 1bM 1L 1fM 1L
1M 3L 2M 2L 5M 2L 1M 1L 16M 2L 8M 1L 37F 2L 3dM 1L 2M 1L 4M 1L fn3R 1M 1R aF 1R 12A dqF iA 3jF
xA dF 3M gF aL 6M gF zL 1F jL 1F 4L 4A 3zF 1L 1F fE aF 7L qF 6L qF bL 3eF 7L 1F 7L 1F gL 75F 1L
1qF 25L 3F dL 3F 1L 2kM 1L 6aM 1E rL 3eM 5L w5R 7zF 1R 69M 3R 1M 2R 5M 4R 14M 3R 4M 1R 4lM 2R
2aF 7R cgA 10M 4A 8N aA 6R 80N vR 18M 2R jA 1pM 3R 1cA mM bA vR iM 4R 3eL 1M 1L 1iM fL bF kL aM
1L 2M 2L aM 3L 1dM 4L 2M 2L 7M 1L 1pM 3L 10M 5L 1M 8L 1qM 1L cM 2L 1gM 9L aM 4L 2M 1L 2nM 3L 2M
1L 1M 2L 6M 1L 2M 1L 4dM 1L 3M 8L lM 2L 1lM 2L 3M 1L 11M 7L 3M 5L 5fM 8L 2M 3L 1M 1L nM 1L 2cM
6L 1M 1L 4M 2L 1M 2L 6mM 4L 6M 2L 1M 2L rM 2L 2dM 8L 2M 1L 1M 2L vF dL 1qM 1L 1M 1L 2M 6L 1M 1L
2tM 3L 2M 4L 1M 5L 77M 9L 1M 2L 74M 2L 1M 1L 4M 1L 40M 4L 2M 2L 4M 1L wM 6L 2M 2L 14M 6L 2M 4L
8M 1L 9M 6L 2M 3L 1aM dL 1M 2L baM 7L 1M 6L 2cM mL 2M 7L 1M 2L 1M 2L 3eM 6L 3M 1L 1M 2L 1M 7L 1M
1L 20M 2L 3M 1L 1M 1L 9nM 2L bM 2L 1gM 5L 5M 1L 1M 1L 42F tL 40eM 1L 6M fL asaM 5L 1nM 7L t4M 1L
1rM 4L 27F 1L 1M 1L f5kM 2L 1F 4L 3mkM 1aL 2M nL f4M 3L 9F 8M 8L 2M 7L uM 4L 1nF 2L lF 1uM 3F 1L
56F 2fL p0F 1L 1lF 1L 1lF 1L 1lF 1L 1lF 1L aE 1eL e8M 1jL 4M 1eL 8M 1L eM 1L mM 5L 1M fL 11sM 7L
1M hL 2M 7L 1M 2L 1M 5L 2sM 1L 4gM 7L afM 1L 1pM 4L fF 1L doM 4L lsR 5sM 7R 31M 7R mdA 28R 1sA
28R 4wA 6oF 2A eR 74F 18L 4F 2sL cF fL 2F fL 1F fL 1F 11L aE bF 5L vF 1L 1mF 6L 1pF 1L 4yF 6L
4aF rcL 4F hL 3F dL 3F 3bL 4F 2nL 6F cL 4F 1L fF cL 4F 1kL 8F aL 6F 14L 8F uL 2F 2L 26F 9gL cF
eL 2F dL 3F 9L 7F 1aL 1F 7L 8F eL 4F 9L 7F 9L 7F 43L 1F 1jL 11E aL skF 2L 1ekeF 2L 1ekeF 2L
1ekeF 2L 1ekeF 2L 1ekeF 2L 1ekeF 2L 1ekeF 2L 1ekeF 2L 1ekeF 2L 1ekeF 2L 1ekeF 2L 1ekeF 76M 6oF
2s0L 1bemF 2L 1ekeF 2L 1ekeF"

def direction (c : Char) : Char := directions.kindOf c

end GuidedLogin.Unicode
